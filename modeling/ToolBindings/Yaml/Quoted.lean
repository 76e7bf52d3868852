import ToolBindings.Text.Digits

/-!
# Quoted scalars of YAML text

Scalars in single quotes, where a quote is written twice, and in double quotes, with escapes. A line
end inside folds into a blank, and further ones stay line ends.
-/

namespace ToolBindings.Yaml

/-- A character of a quoted scalar; one that was escaped takes no part in folding. -/
structure Written where
  char : Char
  escaped : Bool

/-- What blanks and line ends before a character become. -/
def folded (blanks : List Char) (lineEnds : Nat) : List Char :=
  match lineEnds with
  | 0 => blanks
  | 1 => [' ']
  | n + 2 => List.replicate (n + 1) '\n'

/-- Folds the lines of a quoted scalar, after `blanks` and `lineEnds` that wait for what follows. -/
def foldLines (blanks : List Char) (lineEnds : Nat) : List Written → List Char
  | [] => folded blanks lineEnds
  | ⟨c, escaped⟩ :: rest =>
    if escaped then folded blanks lineEnds ++ c :: foldLines [] 0 rest
    else if c = '\n' then foldLines [] (lineEnds + 1) rest
    else if c = ' ' ∨ c = '\t' then
      if lineEnds = 0 then foldLines (blanks ++ [c]) 0 rest else foldLines [] lineEnds rest
    else folded blanks lineEnds ++ c :: foldLines [] 0 rest

/-- The rest of a scalar after its single quote, and what follows it. -/
def singleQuoted? : List Char → Option (List Written × List Char)
  | [] => none
  | '\'' :: '\'' :: rest =>
    (singleQuoted? rest).map fun (cs, after) => (⟨'\'', true⟩ :: cs, after)
  | c :: rest =>
    if c = '\'' then some ([], rest)
    else (singleQuoted? rest).map fun (cs, after) => (⟨c, false⟩ :: cs, after)

/-- The character that a one-letter escape names. -/
def escape? : Char → Option Char
  | '0' => some (Char.ofNat 0)
  | 'a' => some (Char.ofNat 7)
  | 'b' => some (Char.ofNat 8)
  | 't' => some '\t'
  | '\t' => some '\t'
  | 'n' => some '\n'
  | 'v' => some (Char.ofNat 11)
  | 'f' => some (Char.ofNat 12)
  | 'r' => some '\r'
  | 'e' => some (Char.ofNat 27)
  | ' ' => some ' '
  | '"' => some '"'
  | '\\' => some '\\'
  | '/' => some '/'
  | 'N' => some (Char.ofNat 0x85)
  | '_' => some (Char.ofNat 0xA0)
  | 'L' => some (Char.ofNat 0x2028)
  | 'P' => some (Char.ofNat 0x2029)
  | _ => none

/-- The character of a number in hexadecimal, if there is one. -/
def numbered? (digits : List Char) : Option Char :=
  (Text.hexGroupValue? digits).bind fun n => if n.isValidChar then some (Char.ofNat n) else none

/-- The rest of a scalar after its double quote, and what follows it. Blanks at the start of a line
after an escaped line end are skipped. -/
def doubleQuoted? (skipping : Bool) : List Char → Option (List Written × List Char)
  | [] => none
  | '\\' :: '\n' :: rest => doubleQuoted? true rest
  | '\\' :: 'x' :: a :: b :: rest =>
    match numbered? [a, b], doubleQuoted? false rest with
    | some c, some (cs, after) => some (⟨c, true⟩ :: cs, after)
    | _, _ => none
  | '\\' :: 'u' :: a :: b :: c :: d :: rest =>
    match numbered? [a, b, c, d], doubleQuoted? false rest with
    | some c, some (cs, after) => some (⟨c, true⟩ :: cs, after)
    | _, _ => none
  | '\\' :: 'U' :: a :: b :: c :: d :: e :: f :: g :: h :: rest =>
    match numbered? [a, b, c, d, e, f, g, h], doubleQuoted? false rest with
    | some c, some (cs, after) => some (⟨c, true⟩ :: cs, after)
    | _, _ => none
  | '\\' :: e :: rest =>
    match escape? e, doubleQuoted? false rest with
    | some c, some (cs, after) => some (⟨c, true⟩ :: cs, after)
    | _, _ => none
  | c :: rest =>
    if c = '"' then some ([], rest)
    else if c = '\\' then none
    else if skipping ∧ (c = ' ' ∨ c = '\t') then doubleQuoted? true rest
    else (doubleQuoted? false rest).map fun (cs, after) => (⟨c, false⟩ :: cs, after)

/-- The text of a quoted scalar at the front, and what follows it. -/
def quoted? : List Char → Option (List Char × List Char)
  | '\'' :: rest => (singleQuoted? rest).map fun (cs, after) => (foldLines [] 0 cs, after)
  | '"' :: rest => (doubleQuoted? false rest).map fun (cs, after) => (foldLines [] 0 cs, after)
  | _ => none

end ToolBindings.Yaml
