import ToolBindings.Config.Value
import ToolBindings.Decimal.Layout
import ToolBindings.Text.Scan

/-!
# Plain scalars of YAML text

What a scalar without quotes stands for: null, a truth value, an integer in one of four bases, a
number with a point, or else a text.
-/

namespace ToolBindings.Yaml

/-- The words for null. -/
def nullWords : List String := ["", "~", "null", "Null", "NULL"]

/-- The words for true. -/
def trueWords : List String :=
  ["yes", "Yes", "YES", "true", "True", "TRUE", "on", "On", "ON"]

/-- The words for false. -/
def falseWords : List String :=
  ["no", "No", "NO", "false", "False", "FALSE", "off", "Off", "OFF"]

/-- Value of digits in a base; underscores between them count for nothing. -/
def baseValue (base : Nat) (digits : List Char) : Nat :=
  (digits.filter (· ≠ '_')).foldl (fun n c => base * n + (Text.hexValue? c).getD 0) 0

/-- Two digits or one, of which the first of two is at most five. -/
def isSixtieths (s : List Char) : Bool :=
  match s with
  | [c] => c.isDigit
  | [c, d] => '0' ≤ c && c ≤ '5' && d.isDigit
  | _ => false

/-- The integer that digits with colons write: each colon takes sixty of what follows for one. -/
def sixties? (s : List Char) : Option Nat :=
  match Text.splitOn ':' s with
  | first :: more =>
    if more.all isSixtieths then
      some ((first :: more).foldl (fun n part => 60 * n + baseValue 10 part) 0)
    else none
  | [] => none

/-- The integer that an unsigned text writes, in base two, eight, ten or sixteen, or with colons. -/
def natural? (s : List Char) : Option Nat :=
  match s with
  | '0' :: 'b' :: c :: rest =>
    if (c :: rest).all fun d => d == '0' || d == '1' || d == '_' then
      some (baseValue 2 (c :: rest))
    else none
  | '0' :: 'x' :: c :: rest =>
    if (c :: rest).all fun d => (Text.hexValue? d).isSome || d == '_' then
      some (baseValue 16 (c :: rest))
    else none
  | ['0'] => some 0
  | '0' :: c :: rest =>
    if (c :: rest).all fun d => ('0' ≤ d && d ≤ '7') || d == '_' then
      some (baseValue 8 (c :: rest))
    else none
  | c :: rest =>
    let run := rest.takeWhile (· ≠ ':')
    if c.isDigit ∧ run.all fun d => d.isDigit || d == '_' then sixties? (c :: rest) else none
  | [] => none

/-- Digits and underscores at the front, and the rest. -/
def digitRun (s : List Char) : List Char × List Char :=
  (s.takeWhile fun c => c.isDigit || c == '_', s.dropWhile fun c => c.isDigit || c == '_')

/-- A text without its underscores. -/
def withoutUnderscores (s : List Char) : List Char := s.filter (· ≠ '_')

/-- An exponent as it may stand after a point: it needs its sign. -/
def signedExponent? : List Char → Option (Option Int)
  | [] => some none
  | e :: sign :: rest =>
    if (e = 'e' ∨ e = 'E') ∧ (sign = '+' ∨ sign = '-') then Numeral.exponent? (e :: sign :: rest)
    else none
  | _ => none

/-- The number that an unsigned text with a point writes. -/
def pointed? (negative : Bool) (s : List Char) : Option Binary64 :=
  let (whole, rest) := digitRun s
  match rest with
  | '.' :: rest =>
    let (fraction, rest) := digitRun rest
    if whole.head? = some '_' ∨ (whole = [] ∧ (fraction = [] ∨ fraction.head? = some '_')) then none
    else
      (signedExponent? rest).map fun e =>
        Numeral.toBinary64
          ⟨negative, withoutUnderscores whole, some (withoutUnderscores fraction), e⟩
  | _ => none

/-- The number that a text with a point writes, or one of the words for numbers without digits. -/
def float? (s : List Char) : Option Binary64 :=
  let (negative, rest) := Numeral.sign s
  let word := String.ofList rest
  if word = ".inf" ∨ word = ".Inf" ∨ word = ".INF" then some (.infinite negative)
  else if s = rest ∧ (word = ".nan" ∨ word = ".NaN" ∨ word = ".NAN") then some .nan
  else if s ≠ rest ∧ rest.head? = some '.' then none
  else pointed? negative rest

/-- The integer that a text writes. -/
def int? (s : List Char) : Option Int :=
  let (negative, rest) := Numeral.sign s
  (natural? rest).map fun n => if negative then -(n : Int) else n

/-- What a plain scalar stands for. -/
def plainValue (s : List Char) : ConfigValue :=
  let word := String.ofList s
  if nullWords.contains word then .null
  else if trueWords.contains word then .bool true
  else if falseWords.contains word then .bool false
  else
    match int? s with
    | some i => .int i
    | none =>
      match float? s with
      | some x => .float x
      | none => .text word

end ToolBindings.Yaml
