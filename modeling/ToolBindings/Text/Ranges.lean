/-!
# Ranges of code points

A class of characters as a list of ranges, each given by its first and last code point.
-/

namespace ToolBindings.Text

/-- The code point lies in one of the ranges. -/
def inRanges (n : Nat) (ranges : List (Nat × Nat)) : Bool :=
  ranges.any fun (low, high) => low ≤ n && n ≤ high

end ToolBindings.Text
