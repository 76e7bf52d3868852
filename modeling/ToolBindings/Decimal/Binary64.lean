/-!
# Binary64 numbers

The numbers of the 64-bit binary format, held exactly: a finite magnitude is `mantissa * 2^exponent`
in units of `2^-1074`, the spacing of the smallest numbers, so that every magnitude is a natural
number of units. `Magnitude.nearest?` rounds a quotient of naturals to the nearest magnitude, a tie
to the even mantissa, and has no answer only above the largest one.
-/

namespace ToolBindings

-- A power of naturals is that of the core library, whatever else is imported.
attribute [local instance (high)] instPowNat

/-- A finite magnitude `mantissa * 2^exponent`, in units of `2^-1074`. Each value has one form: the
mantissa uses all its 53 bits unless the exponent is zero. -/
structure Magnitude where
  mantissa : Nat
  exponent : Nat
  mantissa_lt : mantissa < 2 ^ (53 : Nat)
  exponent_le : exponent ≤ 2045
  normal : exponent = 0 ∨ 2 ^ (52 : Nat) ≤ mantissa
deriving DecidableEq

namespace Magnitude

/-- Number of units in one. -/
@[irreducible] def unitsInOne : Nat := 2 ^ (1074 : Nat)

/-- Number of units of `2^-1074`. -/
def units (x : Magnitude) : Nat := x.mantissa * 2 ^ x.exponent

/-- The zero magnitude. -/
def zero : Magnitude := ⟨0, 0, by decide, by decide, .inl rfl⟩

/-- The magnitude of that form, if the form is the one it must have. -/
def mk? (mantissa exponent : Nat) : Option Magnitude :=
  if h : mantissa < 2 ^ (53 : Nat) ∧ exponent ≤ 2045 ∧ (exponent = 0 ∨ 2 ^ (52 : Nat) ≤ mantissa) then
    some ⟨mantissa, exponent, h.1, h.2.1, h.2.2⟩
  else none

/-- `num / den` rounded to the nearest integer, a half to the even one. -/
def roundHalfEven (num den : Nat) : Nat :=
  let floor := num / den
  let twice := 2 * (num % den)
  if twice < den then floor
  else if den < twice then floor + 1
  else floor + floor % 2

/-- The magnitude nearest to `num / den`, or none if that lies above every finite number. -/
@[irreducible] def nearest? (num den : Nat) : Option Magnitude :=
  let scaled := unitsInOne * num
  let exponent := (scaled / den).log2 - 52
  let mantissa := roundHalfEven scaled (den * 2 ^ exponent)
  if mantissa < 2 ^ (53 : Nat) then mk? mantissa exponent else mk? (2 ^ (52 : Nat)) (exponent + 1)

end Magnitude

/-- A binary64 number. -/
inductive Binary64 where
  | finite (negative : Bool) (magnitude : Magnitude)
  | infinite (negative : Bool)
  | nan
deriving DecidableEq

namespace Binary64

/-- The number nearest to `± num / den`. -/
def ofRatio (negative : Bool) (num den : Nat) : Binary64 :=
  match Magnitude.nearest? num den with
  | some magnitude => .finite negative magnitude
  | none => .infinite negative

/-- Zero of either sign. -/
def isZero : Binary64 → Bool
  | .finite _ magnitude => magnitude.mantissa == 0
  | _ => false

/-- Neither infinite nor undefined. -/
def isFinite : Binary64 → Bool
  | .finite .. => true
  | _ => false

/-- The number nearest to an integer; an integer beyond the finite numbers has none. -/
def ofInt? (i : Int) : Option Binary64 :=
  (Magnitude.nearest? i.natAbs 1).map (.finite (i < 0))

/-- One, and zero. -/
def ofBool (b : Bool) : Binary64 := ofRatio false b.toNat 1

/-- The integer part, for a finite number. -/
def truncate? : Binary64 → Option Int
  | .finite negative magnitude =>
    let whole : Int := Int.ofNat (magnitude.units / Magnitude.unitsInOne)
    some (if negative then -whole else whole)
  | _ => none

end Binary64
end ToolBindings
