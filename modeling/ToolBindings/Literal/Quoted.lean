import ToolBindings.Text.Digits
import ToolBindings.Text.Printable

/-!
# Quoted texts of literals

A text is written between single quotes, or between double quotes when it holds a single quote and
no double one. The quote in use, the backslash, line ends and tabs are escaped by one letter, every
other character that is not printable by its number in two, four or eight hexadecimal digits; so a
quoted text is one line of printable characters. `body?` reads the text back.
-/

namespace ToolBindings.Literal

/-- The quote that a text is written in. -/
def quoteOf (s : List Char) : Char :=
  if s.contains '\'' && !s.contains '"' then '"' else '\''

/-- The number of a character as an escape of the least width that holds it. -/
def numberEscape (n : Nat) : List Char :=
  if n < 0x100 then '\\' :: 'x' :: Text.hexGroup 2 n
  else if n < 0x10000 then '\\' :: 'u' :: Text.hexGroup 4 n
  else '\\' :: 'U' :: Text.hexGroup 8 n

/-- A character between quotes. -/
def escapeChar (quote c : Char) : List Char :=
  if c = quote ∨ c = '\\' then ['\\', c]
  else if c = '\n' then ['\\', 'n']
  else if c = '\r' then ['\\', 'r']
  else if c = '\t' then ['\\', 't']
  else if Text.isPrintable c then [c]
  else numberEscape c.toNat

/-- A quoted text. -/
def quoted (s : String) : List Char :=
  let quote := quoteOf s.toList
  quote :: s.toList.flatMap (escapeChar quote) ++ [quote]

/-! ## Reading -/

/-- The character that a one-letter escape names. -/
def escape? : Char → Option Char
  | '\\' => some '\\'
  | '\'' => some '\''
  | '"' => some '"'
  | 'n' => some '\n'
  | 'r' => some '\r'
  | 't' => some '\t'
  | _ => none

/-- The character of a number, if there is one. -/
def charOf? (n : Nat) : Option Char :=
  if n.isValidChar then some (Char.ofNat n) else none

/-- The characters up to the closing quote, and what follows it. A line end before the quote closes
nothing. -/
def body? (quote : Char) : List Char → Option (List Char × List Char)
  | [] => none
  | '\\' :: 'x' :: a :: b :: rest =>
    match (Text.hexGroupValue? [a, b]).bind charOf?, body? quote rest with
    | some c, some (cs, after) => some (c :: cs, after)
    | _, _ => none
  | '\\' :: 'u' :: a :: b :: c :: d :: rest =>
    match (Text.hexGroupValue? [a, b, c, d]).bind charOf?, body? quote rest with
    | some c, some (cs, after) => some (c :: cs, after)
    | _, _ => none
  | '\\' :: 'U' :: a :: b :: c :: d :: e :: f :: g :: h :: rest =>
    match (Text.hexGroupValue? [a, b, c, d, e, f, g, h]).bind charOf?, body? quote rest with
    | some c, some (cs, after) => some (c :: cs, after)
    | _, _ => none
  | '\\' :: e :: rest =>
    match escape? e, body? quote rest with
    | some c, some (cs, after) => some (c :: cs, after)
    | _, _ => none
  | c :: rest =>
    if c = quote then some ([], rest)
    else if c = '\n' ∨ c = '\\' then none
    else
      match body? quote rest with
      | some (cs, after) => some (c :: cs, after)
      | none => none

/-- A quoted text uses up what it is read from. -/
theorem length_body?_le {quote : Char} {s : List Char} {p : List Char × List Char}
    (h : body? quote s = some p) : p.2.length ≤ s.length := by
  fun_induction body? quote s generalizing p <;>
    simp only [List.length_cons, List.length_nil] <;> grind

end ToolBindings.Literal
