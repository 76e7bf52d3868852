/-!
# Scanning

Runs of characters at the front of a text, and fixed texts cut off it.
-/

namespace ToolBindings.Text

/-- The text after the longest run of characters that satisfy `p` is no longer than the text. -/
theorem length_dropWhile_le (p : Char → Bool) (s : List Char) :
    (s.dropWhile p).length ≤ s.length := by
  induction s with
  | nil => simp
  | cons c rest ih =>
    simp only [List.dropWhile_cons]
    split
    · simp only [List.length_cons]; omega
    · simp

/-- A text without the fixed text at its front, if it starts with that. -/
def dropText? : (front : List Char) → List Char → Option (List Char)
  | [], s => some s
  | _ :: _, [] => none
  | f :: front, c :: s => if f = c then dropText? front s else none

/-- Cuts `s` at every `sep`; there is one piece more than there are separators. -/
def splitOn (sep : Char) : List Char → List (List Char)
  | [] => [[]]
  | c :: rest =>
    match splitOn sep rest with
    | [] => [[]]
    | piece :: pieces => if c = sep then [] :: piece :: pieces else (c :: piece) :: pieces

/-- Pieces joined by a separator. -/
def joinWith (sep : String) (pieces : List String) : String := sep.intercalate pieces

end ToolBindings.Text
