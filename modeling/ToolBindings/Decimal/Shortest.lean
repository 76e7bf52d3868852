import ToolBindings.Decimal.Binary64

/-!
# Shortest decimals

Decimal forms of binary64 numbers. `Decimal.toBinary64` rounds a decimal to the nearest number;
`Magnitude.shortest` is the decimal with the fewest digits that rounds back to a magnitude, the
nearest to it among those, and of two equally near ones the even one.
-/

namespace ToolBindings

-- A power of naturals is that of the core library, whatever else is imported.
attribute [local instance (high)] instPowNat

/-- The decimal number `digits * 10^exponent`. -/
structure Decimal where
  digits : Nat
  exponent : Int
deriving DecidableEq

namespace Decimal

/-- The same decimal without trailing zeros, which move into the exponent. The number of digits
bounds the steps. -/
def stripFor : (steps : Nat) → Decimal → Decimal
  | 0, d => d
  | steps + 1, d =>
    if d.digits ≠ 0 ∧ d.digits % 10 = 0 then stripFor steps ⟨d.digits / 10, d.exponent + 1⟩ else d

/-- The same decimal without trailing zeros. -/
def strip (d : Decimal) : Decimal := stripFor (Nat.toDigits 10 d.digits).length d

/-- The binary64 number nearest to a decimal. Beyond `10^400` and below `10^-400` the answer needs
no arithmetic. -/
def toBinary64 (negative : Bool) (d : Decimal) : Binary64 :=
  if d.digits = 0 then .finite negative .zero
  else
    let places : Int := (Nat.toDigits 10 d.digits).length
    if places + d.exponent > 400 then .infinite negative
    else if places + d.exponent < -400 then .finite negative .zero
    else
      match d.exponent with
      | .ofNat e => .ofRatio negative (d.digits * 10 ^ e) 1
      | .negSucc e => .ofRatio negative d.digits (10 ^ (e + 1))

/-- The decimal names this magnitude: it rounds to it. -/
def names (d : Decimal) (x : Magnitude) : Bool :=
  d.toBinary64 false = .finite false x

/-- Numerator and denominator of `units / 10^exponent`, for a count of units of `2^-1074`. -/
def quotient (units : Nat) (exponent : Int) : Nat × Nat :=
  match exponent with
  | .ofNat e => (units, Magnitude.unitsInOne * 10 ^ e)
  | .negSucc e => (units * 10 ^ (e + 1), Magnitude.unitsInOne)

end Decimal

namespace Magnitude

/-- The value lies below `10^k`. -/
def below (x : Magnitude) (k : Int) : Bool :=
  let (num, den) := Decimal.quotient x.units k
  num < den

/-- The least `k` with the value below `10^k`: within two steps of the estimate that the binary
logarithm gives. -/
def scale (x : Magnitude) : Int :=
  let bits : Int := Int.ofNat x.units.log2 - 1074
  let estimate := Int.fdiv (bits * 30103) 100000
  ([estimate - 1, estimate, estimate + 1].find? (x.below ·)).getD (estimate + 2)

/-- The decimals next to the value on the grid `10^exponent` that name it, the better one first: the
nearer one, or of two equally near ones the even one. -/
def onGrid (x : Magnitude) (exponent : Int) : List Decimal :=
  let (num, den) := Decimal.quotient x.units exponent
  let lower := num / den
  let twice := 2 * (num % den)
  let lowerFirst := twice < den || (twice == den && lower % 2 == 0)
  let ordered := if lowerFirst then [lower, lower + 1] else [lower + 1, lower]
  (ordered.map fun n => Decimal.strip ⟨n, exponent⟩).filter (·.names x)

/-- The digits of one unit, which is `unitDigits * 10^-1074`. -/
@[irreducible] def unitDigits : Nat := 5 ^ (1074 : Nat)

/-- The exact decimal value. -/
def exact (x : Magnitude) : Decimal := ⟨unitDigits * x.units, -1074⟩

/-- The fewest digits that name the magnitude. Seventeen always suffice; the exact value stands for
the search that finds none. -/
def shortest (x : Magnitude) : Decimal :=
  let k := x.scale
  ((List.range 17).findSome? fun n : Nat => (x.onGrid (k - (Int.ofNat n + 1))).head?).getD x.exact

end Magnitude
end ToolBindings
