import ToolBindings.Console.EmojiTable
import ToolBindings.Text.AnyDigit
import ToolBindings.Text.Scan

/-!
# Emoji in console text

A name between two colons stands for an emoji, and `-text` or `-emoji` after the name asks for one
of its two forms. A name that is not known stands for itself.
-/

namespace ToolBindings.Console.Emoji

/-! ## Names -/

/-- The emoji of a name in the table. -/
def listed? (name : List Char) : Option (List Char) :=
  (codes.find? (·.1 == String.ofList name)).map fun (_, points) => points.map Char.ofNat

/-- An emoji comes in skin tones. -/
def isToned (name : List Char) : Bool :=
  tonedLines.any fun line => (Text.splitOn ' ' line.toList).contains name

/-- A text without the fixed text at its end, if it ends with that. -/
def dropEnd? (ending s : List Char) : Option (List Char) :=
  (Text.dropText? ending.reverse s.reverse).map List.reverse

/-- An emoji in a tone: the tone follows its first character. -/
def inTone (tone : Char) : List Char → List Char
  | c :: rest => c :: tone :: rest.dropWhile (· == Char.ofNat 0xFE0F)
  | [] => []

/-- The emoji of a name that ends in a tone. -/
def toned? (name : List Char) : Option (List Char) :=
  tones.findSome? fun (ending, tone) => do
    let base ← dropEnd? ending.toList name
    if isToned base then (listed? base).map (inTone (Char.ofNat tone)) else none

/-- The emoji of a name. -/
def find? (name : List Char) : Option (List Char) := (listed? name).or (toned? name)

/-! ## Codes in text -/

/-- The forms that can be asked for. -/
def forms : List (String × Nat) := [("-emoji", 0xFE0F), ("-text", 0xFE0E)]

/-- A name without the form asked for, and the character that chooses the form. -/
def splitForm (name : List Char) : List Char × List Char :=
  let found := forms.findSome? fun (ending, form) =>
    (dropEnd? ending.toList name).map fun base => (base, [Char.ofNat form])
  found.getD (name, [])

/-- What stands for a name between colons. -/
def replacement (name : List Char) : List Char :=
  let (base, form) := splitForm name
  match find? (base.map Text.smallLetter) with
  | some emoji => emoji ++ form
  | none => ':' :: name ++ [':']

/-- A character that may stand between the colons. -/
def isNameChar (c : Char) : Bool := c ≠ ':' && !Text.isSpace c

/-- A text with the names in it replaced. -/
def replace : List Char → List Char
  | [] => []
  | c :: rest =>
    if c = ':' then
      match _h : rest.dropWhile isNameChar with
      | ':' :: after => replacement (rest.takeWhile isNameChar) ++ replace after
      | _ => c :: replace rest
    else c :: replace rest
termination_by s => s.length
decreasing_by
  · have hle := Text.length_dropWhile_le isNameChar rest
    rw [_h] at hle
    simp only [List.length_cons] at hle ⊢
    omega
  · simp
  · simp

end ToolBindings.Console.Emoji
