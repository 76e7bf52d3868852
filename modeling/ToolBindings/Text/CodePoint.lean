/-!
# Code points

A reply may hold one half of a pair of 16-bit units without the other. Such a half is a code point
but no character: it can be kept and compared, but not written to a file. Both halves of a pair, one
after the other, are read as their character, so a text that was read never has them side by side.
-/

namespace ToolBindings

/-- A character, or one half of a pair of units, by its number above the first of them. -/
inductive CodePoint where
  | char (c : Char)
  | half (k : Fin 0x800)
deriving DecidableEq

namespace CodePoint

/-- The character that is shown for a code point. -/
def shown : CodePoint → Char
  | .char c => c
  | .half _ => Char.ofNat 0xFFFD

/-- The code point is a character. -/
def isChar : CodePoint → Bool
  | .char _ => true
  | .half _ => false

/-- The first half of a pair. -/
def isFirst : CodePoint → Bool
  | .char _ => false
  | .half k => k.val < 0x400

/-- The second half of a pair. -/
def isSecond : CodePoint → Bool
  | .char _ => false
  | .half k => 0x400 ≤ k.val

/-- No first half stands before a second one; one may stand before them all. -/
def apart (afterFirst : Bool) : List CodePoint → Bool
  | [] => true
  | p :: rest => !(afterFirst && p.isSecond) && apart p.isFirst rest

theorem apart_chars (s : List Char) (afterFirst : Bool) : apart afterFirst (s.map .char) = true := by
  induction s generalizing afterFirst with
  | nil => rfl
  | cons c s ih => simp [apart, isSecond, ih]

end CodePoint

/-- A text as it is read from a reply: halves of pairs stand apart. -/
structure LooseText where
  points : List CodePoint
  apart : CodePoint.apart false points = true
deriving DecidableEq

namespace LooseText

/-- The text of characters. -/
def ofString (s : String) : LooseText := ⟨s.toList.map .char, CodePoint.apart_chars ..⟩

/-- The text as it is shown, with U+FFFD for each half. -/
def shown (s : LooseText) : String := String.ofList (s.points.map CodePoint.shown)

/-- Characters are shown as themselves. -/
@[simp] theorem shown_ofString (s : String) : (ofString s).shown = s := by
  have hchars : s.toList.map (CodePoint.shown ∘ .char) = s.toList := List.map_id _
  rw [shown, ofString, List.map_map, hchars, String.ofList_toList]

/-- The text holds no halves, so that it can be written. -/
def isWhole (s : LooseText) : Bool := s.points.all CodePoint.isChar

end LooseText

/-- Texts of a kind that has every text of characters. -/
class IsText (τ : Type) where
  ofString : String → τ

instance : IsText String := ⟨id⟩

@[simp] theorem IsText.ofString_string (s : String) : (IsText.ofString s : String) = s := rfl

instance : IsText LooseText := ⟨LooseText.ofString⟩

end ToolBindings
