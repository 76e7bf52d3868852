/-!
# Digits

Numerals as lists of characters: decimal text of naturals and integers, hexadecimal digits and
fixed-width hexadecimal groups, and the readers of both.
-/

namespace ToolBindings.Text

/-! ## Decimal -/

/-- Decimal digits of `n`, most significant first, without leading zeros (`0` is `['0']`). -/
def decimal (n : Nat) : List Char := Nat.toDigits 10 n

/-- Decimal text of an integer: a minus sign in front of a negative one. -/
def decimalInt : Int → List Char
  | .ofNat n => decimal n
  | .negSucc n => '-' :: decimal (n + 1)

/-- Value of one decimal digit. -/
def digitValue (c : Char) : Nat := c.toNat - '0'.toNat

/-- Value of a run of decimal digits, read after a leading part of value `acc`. -/
def decimalValueFrom (acc : Nat) (digits : List Char) : Nat :=
  digits.foldl (fun n c => 10 * n + digitValue c) acc

/-- Value of a run of decimal digits. -/
def decimalValue (digits : List Char) : Nat := decimalValueFrom 0 digits

/-- Decimal text on at least `width` characters, filled with zeros on the left. -/
def paddedDecimal (width n : Nat) : List Char :=
  let digits := decimal n
  List.replicate (width - digits.length) '0' ++ digits

/-! ## Hexadecimal -/

/-- The lower-case hexadecimal digit of a value below sixteen. -/
def hexDigit (n : Nat) : Char :=
  if n < 10 then Char.ofNat (n + 48) else Char.ofNat (n + 87)

/-- The `width` lowest hexadecimal digits of `n`, most significant first. -/
def hexGroup : (width : Nat) → (n : Nat) → List Char
  | 0, _ => []
  | width + 1, n => hexGroup width (n / 16) ++ [hexDigit (n % 16)]

/-- Value of a hexadecimal digit of either case. -/
def hexValue? (c : Char) : Option Nat :=
  if '0' ≤ c ∧ c ≤ '9' then some (c.toNat - 48)
  else if 'a' ≤ c ∧ c ≤ 'f' then some (c.toNat - 87)
  else if 'A' ≤ c ∧ c ≤ 'F' then some (c.toNat - 55)
  else none

/-- Value of a group of hexadecimal digits, read after a leading part of value `acc`. -/
def hexGroupValueFrom? (acc : Nat) : List Char → Option Nat
  | [] => some acc
  | c :: rest =>
    match hexValue? c with
    | some v => hexGroupValueFrom? (16 * acc + v) rest
    | none => none

/-- Value of a group of hexadecimal digits. -/
def hexGroupValue? (digits : List Char) : Option Nat := hexGroupValueFrom? 0 digits

end ToolBindings.Text
