import ToolBindings.Data.Loose
import ToolBindings.Decimal.Layout

/-!
# JSON text

Printing of data. A `Style` says what stands between items, whether characters beyond ASCII are
escaped, and whether the text is broken into indented lines. A `Script` says what a text is made of:
of characters, or of code points where texts may hold halves of pairs.
-/

namespace ToolBindings.Json

/-- The choices of a JSON text. -/
structure Style where
  /-- Characters beyond `~` are written as escapes of their 16-bit units. -/
  ascii : Bool
  /-- Between two elements. -/
  comma : List Char
  /-- Between a key and its value. -/
  colon : List Char
  /-- Blanks per level when every element has a line of its own. -/
  indent : Option Nat

namespace Style

/-- One line, ASCII only. -/
def asciiLine : Style := ⟨true, [',', ' '], [':', ' '], none⟩

/-- One line, characters as they are. -/
def raw : Style := ⟨false, [',', ' '], [':', ' '], none⟩

/-- One line without blanks, characters as they are. -/
def compact : Style := ⟨false, [','], [':'], none⟩

/-- Four blanks per level, characters as they are. -/
def indented : Style := ⟨false, [','], [':', ' '], some 4⟩

end Style

/-- The words for numbers without digits. -/
def layout : Layout := ⟨"Infinity".toList, "NaN".toList⟩

/-- A 16-bit unit as an escape. -/
def unitEscape (n : Nat) : List Char := '\\' :: 'u' :: Text.hexGroup 4 n

/-- A character inside quotes. -/
def escapeChar (ascii : Bool) (c : Char) : List Char :=
  if c = '"' then ['\\', '"']
  else if c = '\\' then ['\\', '\\']
  else if c = '\n' then ['\\', 'n']
  else if c = '\r' then ['\\', 'r']
  else if c = '\t' then ['\\', 't']
  else if c = Char.ofNat 8 then ['\\', 'b']
  else if c = Char.ofNat 12 then ['\\', 'f']
  else if c.toNat < 32 then unitEscape c.toNat
  else if ascii ∧ 126 < c.toNat then
    if c.toNat < 0x10000 then unitEscape c.toNat
    else
      let n := c.toNat - 0x10000
      unitEscape (0xD800 + n / 1024) ++ unitEscape (0xDC00 + n % 1024)
  else [c]

/-- A text in quotes. -/
def quote (ascii : Bool) (s : String) : List Char :=
  '"' :: s.toList.flatMap (escapeChar ascii) ++ ['"']

/-- The start of a new line at a depth, where lines are broken. -/
def newline (style : Style) (depth : Nat) : List Char :=
  match style.indent with
  | none => []
  | some n => '\n' :: List.replicate (n * depth) ' '

/-- How marks and words are put down, and texts in quotes. -/
structure Script (τ β : Type) where
  plain : List Char → List β
  quoted : τ → List β

section

variable {τ β : Type} (script : Script τ β) (style : Style)

mutual

/-- The text of a value at a depth. -/
def printAt (depth : Nat) : Data τ τ → List β
  | .null => script.plain "null".toList
  | .bool true => script.plain "true".toList
  | .bool false => script.plain "false".toList
  | .int i => script.plain (Text.decimalInt i)
  | .float x => script.plain (layout.write x)
  | .text s => script.quoted s
  | .list [] => script.plain ['[', ']']
  | .list (item :: rest) =>
    script.plain ('[' :: newline style (depth + 1)) ++ printAt (depth + 1) item ++
      printItems (depth + 1) rest ++ script.plain (newline style depth ++ [']'])
  | .map [] => script.plain ['\x7b', '\x7d']
  | .map ((key, value) :: rest) =>
    script.plain ('\x7b' :: newline style (depth + 1)) ++ script.quoted key ++
      script.plain style.colon ++ printAt (depth + 1) value ++
      printFields (depth + 1) rest ++ script.plain (newline style depth ++ ['\x7d'])

/-- The items after the first, each after a comma. -/
def printItems (depth : Nat) : List (Data τ τ) → List β
  | [] => []
  | item :: rest =>
    script.plain (style.comma ++ newline style depth) ++ printAt depth item ++
      printItems depth rest

/-- The fields after the first, each after a comma. -/
def printFields (depth : Nat) : List (τ × Data τ τ) → List β
  | [] => []
  | (key, value) :: rest =>
    script.plain (style.comma ++ newline style depth) ++ script.quoted key ++
      script.plain style.colon ++ printAt depth value ++ printFields depth rest

end

end

/-- Texts of characters, with these texts in quotes. -/
def Script.chars {τ : Type} (quoted : τ → List Char) : Script τ Char := ⟨id, quoted⟩

@[simp] theorem Script.plain_chars {τ : Type} (quoted : τ → List Char) (s : List Char) :
    (chars quoted).plain s = s := rfl

@[simp] theorem Script.quoted_chars {τ : Type} (quoted : τ → List Char) (s : τ) :
    (chars quoted).quoted s = quoted s := rfl

/-- The JSON text of a value. -/
def print (style : Style) (value : Json) : String :=
  String.ofList (printAt (.chars (quote style.ascii)) style 0 value)

/-- A code point inside quotes. -/
def escapePoint (ascii : Bool) : CodePoint → List CodePoint
  | .char c => (escapeChar ascii c).map .char
  | .half k => if ascii then (unitEscape (0xD800 + k.val)).map .char else [.half k]

/-- Texts of code points. -/
def Style.looseScript (style : Style) : Script LooseText CodePoint where
  plain s := s.map .char
  quoted s := .char '"' :: s.points.flatMap (escapePoint style.ascii) ++ [.char '"']

/-- The JSON text of a value with halves of pairs. -/
def printLoose (style : Style) (value : LooseJson) : List CodePoint :=
  printAt style.looseScript style 0 value

end ToolBindings.Json
