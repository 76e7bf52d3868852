import ToolBindings.Decimal.Shortest
import ToolBindings.Text.Digits

/-!
# Layout of numbers

How a binary64 number is written: its shortest digits, positionally for decimal exponents from -4 up
to 15 with at least one decimal, otherwise with a signed exponent of at least two digits. `Layout`
holds the words for what has no digits. `Numeral` reads such text back.
-/

namespace ToolBindings

/-- The words for numbers without digits. -/
structure Layout where
  infinity : List Char
  nan : List Char

namespace Layout

/-- Digits with the point after the first `point` of them, zeros filled in where there are none. -/
def positional (digits : List Char) (point : Int) : List Char :=
  match point with
  | .negSucc k => '0' :: '.' :: List.replicate (k + 1) '0' ++ digits
  | .ofNat 0 => '0' :: '.' :: digits
  | .ofNat (p + 1) =>
    let whole := digits.take (p + 1)
    let fraction := digits.drop (p + 1)
    whole ++ List.replicate (p + 1 - whole.length) '0' ++ '.' ::
      (if fraction.isEmpty then ['0'] else fraction)

/-- One digit, the others after a point, and the exponent with its sign on two digits or more. -/
def scientific (digits : List Char) (exponent : Int) : List Char :=
  let fraction := digits.drop 1
  digits.take 1 ++ (if fraction.isEmpty then [] else '.' :: fraction) ++
    'e' :: (if exponent < 0 then '-' else '+') :: Text.paddedDecimal 2 exponent.natAbs

/-- Text of a finite magnitude. -/
def magnitude (x : Magnitude) : List Char :=
  if x.mantissa = 0 then ['0', '.', '0']
  else
    let d := x.shortest
    let digits := Text.decimal d.digits
    let point : Int := digits.length + d.exponent
    if -4 < point ∧ point ≤ 16 then positional digits point
    else scientific digits (point - 1)

/-- Text of a binary64 number. -/
def write (style : Layout) : Binary64 → List Char
  | .finite negative x => (if negative then ['-'] else []) ++ magnitude x
  | .infinite negative => (if negative then ['-'] else []) ++ style.infinity
  | .nan => style.nan

end Layout

/-! ## Reading -/

/-- The parts of a written number: digits before and after the point, and the exponent. -/
structure Numeral where
  negative : Bool
  whole : List Char
  /-- Digits after the point; none when there is no point. -/
  fraction : Option (List Char)
  /-- The signed exponent; none when there is no exponent mark. -/
  exponent : Option Int

namespace Numeral

/-- A run of digits and what follows it. -/
def digits (s : List Char) : List Char × List Char :=
  (s.takeWhile Char.isDigit, s.dropWhile Char.isDigit)

/-- An optional sign: whether it is a minus, and what follows. -/
def sign : List Char → Bool × List Char
  | '-' :: rest => (true, rest)
  | '+' :: rest => (false, rest)
  | rest => (false, rest)

/-- An exponent: a mark, an optional sign and at least one digit, up to the end of the text. -/
def exponent? : List Char → Option (Option Int)
  | [] => some none
  | c :: rest =>
    if c = 'e' ∨ c = 'E' then
      let (negative, rest) := sign rest
      let (ds, after) := digits rest
      if ds.isEmpty ∨ after ≠ [] then none
      else
        let n : Int := Text.decimalValue ds
        some (some (if negative then -n else n))
    else none

/-- A whole text of the form digits, point, digits, exponent, after its sign. Either run of digits
may be empty here. -/
def unsigned? (negative : Bool) (s : List Char) : Option Numeral :=
  let (whole, rest) := digits s
  match rest with
  | '.' :: rest =>
    let (fraction, rest) := digits rest
    (exponent? rest).map fun e => ⟨negative, whole, some fraction, e⟩
  | rest => (exponent? rest).map fun e => ⟨negative, whole, none, e⟩

/-- The decimal that a numeral denotes, its sign aside. -/
def decimal (n : Numeral) : Decimal :=
  let fraction := n.fraction.getD []
  ⟨Text.decimalValue (n.whole ++ fraction), n.exponent.getD 0 - fraction.length⟩

/-- The binary64 number that a numeral denotes. -/
def toBinary64 (n : Numeral) : Binary64 := n.decimal.toBinary64 n.negative

/-- The integer that a numeral without point and exponent denotes. -/
def toInt? (n : Numeral) : Option Int :=
  match n.fraction, n.exponent with
  | none, none =>
    let value : Int := Text.decimalValue n.whole
    some (if n.negative then -value else value)
  | _, _ => none

end Numeral
end ToolBindings
