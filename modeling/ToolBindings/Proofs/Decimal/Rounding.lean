import ToolBindings.Decimal.Shortest
import ToolBindings.Proofs.Text.Digits

/-!
# Rounding of exact values

What a decimal rounds to depends on its value alone, not on how digits and exponent share it, and
the exact value of a magnitude rounds to that magnitude. Hence the shortest decimal of a magnitude
always names it, also where the search for one would come to nothing.
-/

namespace ToolBindings

-- A power of naturals is that of the core library, whatever else is imported.
attribute [local instance (high)] instPowNat

namespace Magnitude

/-! ## Quotients -/

/-- Rounding sees a quotient only, not its terms. -/
theorem roundHalfEven_mul_right (num den : Nat) {c : Nat} (hc : 0 < c) :
    roundHalfEven (num * c) (den * c) = roundHalfEven num den := by
  have hdiv : num * c / (den * c) = num / den := Nat.mul_div_mul_right num den hc
  have hmod : 2 * (num * c % (den * c)) = 2 * (num % den) * c := by
    rw [Nat.mul_mod_mul_right, Nat.mul_assoc]
  simp only [roundHalfEven, hdiv, hmod, Nat.mul_lt_mul_right hc]

/-- An integer is its own rounding. -/
theorem roundHalfEven_mul_self (q : Nat) {den : Nat} (h : 0 < den) :
    roundHalfEven (q * den) den = q := by
  simp [roundHalfEven, Nat.mul_div_cancel q h, h]

theorem nearest?_mul_right (num den : Nat) {c : Nat} (hc : 0 < c) :
    nearest? (num * c) (den * c) = nearest? num den := by
  have hscaled : unitsInOne * (num * c) = unitsInOne * num * c := (Nat.mul_assoc _ num c).symm
  have hden : ∀ k, den * c * 2 ^ k = den * 2 ^ k * c := fun k => Nat.mul_right_comm den c _
  unfold nearest?
  simp only [hscaled, hden, Nat.mul_div_mul_right _ _ hc, roundHalfEven_mul_right _ _ hc]

/-! ## Exact values -/

theorem mk?_self (x : Magnitude) : mk? x.mantissa x.exponent = some x := by
  rw [mk?, dif_pos ⟨x.mantissa_lt, x.exponent_le, x.normal⟩]

/-- The binary logarithm of a magnitude gives its exponent back. -/
private theorem log2_units (x : Magnitude) : x.units.log2 - 52 = x.exponent := by
  rcases x.normal with hzero | hnormal
  · -- the exponent is zero and the mantissa has at most 53 bits
    have hunits : x.units = x.mantissa := by rw [units, hzero, Nat.pow_zero, Nat.mul_one]
    rw [hunits, hzero]
    by_cases hm : x.mantissa = 0
    · rw [hm]
      rfl
    · have : x.mantissa.log2 < 53 := (Nat.log2_lt hm).2 x.mantissa_lt
      omega
  · have hne : x.units ≠ 0 := by
      rw [units]
      exact Nat.mul_ne_zero (by omega) (Nat.ne_of_gt (Nat.two_pow_pos _))
    have hlow : 52 + x.exponent ≤ x.units.log2 := by
      rw [Nat.le_log2 hne, Nat.pow_add, units]
      exact Nat.mul_le_mul_right _ hnormal
    have hhigh : x.units.log2 < 53 + x.exponent := by
      rw [Nat.log2_lt hne, Nat.pow_add, units]
      exact Nat.mul_lt_mul_of_pos_right x.mantissa_lt (Nat.pow_pos (by decide))
    omega

theorem unitsInOne_pos : 0 < unitsInOne := by
  unfold unitsInOne
  exact Nat.two_pow_pos 1074

theorem nearest?_units (x : Magnitude) : nearest? x.units unitsInOne = some x := by
  have hlog : (unitsInOne * x.units / unitsInOne).log2 - 52 = x.exponent := by
    rw [Nat.mul_div_cancel_left _ unitsInOne_pos, log2_units]
  have hround : roundHalfEven (unitsInOne * x.units) (unitsInOne * 2 ^ x.exponent)
      = x.mantissa := by
    have hsplit : unitsInOne * x.units = x.mantissa * (unitsInOne * 2 ^ x.exponent) := by
      rw [units, Nat.mul_left_comm]
    rw [hsplit]
    exact roundHalfEven_mul_self _ (Nat.mul_pos unitsInOne_pos (Nat.two_pow_pos _))
  unfold nearest?
  simp only [hlog, hround]
  rw [if_pos x.mantissa_lt, mk?_self]

end Magnitude

namespace Decimal

/-! ## Values of decimals -/

private theorem ofRatio_mul_right (negative : Bool) (num den : Nat) {c : Nat} (hc : 0 < c) :
    Binary64.ofRatio negative (num * c) (den * c) = Binary64.ofRatio negative num den := by
  rw [Binary64.ofRatio, Binary64.ofRatio, Magnitude.nearest?_mul_right num den hc]

/-- A zero moved from the exponent into the digits changes nothing. -/
theorem toBinary64_mul_ten (negative : Bool) (n : Nat) (e : Int) :
    toBinary64 negative ⟨n * 10, e - 1⟩ = toBinary64 negative ⟨n, e⟩ := by
  by_cases hn : n = 0
  · simp [toBinary64, hn]
  · have hplaces : (Nat.toDigits 10 (n * 10)).length = (Nat.toDigits 10 n).length + 1 := by
      have h := congrArg List.length (Text.decimal_mul_pow (Nat.pos_of_ne_zero hn) 1)
      rwa [Nat.pow_one, List.length_append, List.length_replicate] at h
    have hsum : ((Nat.toDigits 10 (n * 10)).length : Int) + (e - 1)
        = (Nat.toDigits 10 n).length + e := by
      rw [hplaces]
      omega
    have hten : n * 10 ≠ 0 := by omega
    simp only [toBinary64, hten, hn, if_false, hsum]
    split
    · rfl
    split
    · rfl
    -- the two quotients are equal, whatever side of zero the exponents are on
    rcases e with (_ | a) | a
    · have h := ofRatio_mul_right negative n 1 (c := 10) (by decide)
      have hone : n * 10 ^ 0 = n := Nat.mul_one n
      show _ = Binary64.ofRatio negative (n * 10 ^ 0) 1
      rw [hone]
      exact h
    · have hexponent : Int.ofNat (a + 1) - 1 = Int.ofNat a := by simp
      rw [hexponent]
      simp only
      rw [Nat.mul_assoc, Nat.pow_succ, Nat.mul_comm 10]
    · exact ofRatio_mul_right negative n (10 ^ (a + 1)) (c := 10) (by decide)

/-- Zeros moved from the exponent into the digits change nothing. -/
theorem toBinary64_mul_pow (negative : Bool) (n : Nat) (e : Int) (k : Nat) :
    toBinary64 negative ⟨n * 10 ^ k, e - k⟩ = toBinary64 negative ⟨n, e⟩ := by
  induction k with
  | zero => simp
  | succ k ih =>
    have hexponent : e - ((k + 1 : Nat) : Int) = e - k - 1 := by omega
    rw [Nat.pow_succ, ← Nat.mul_assoc, hexponent, toBinary64_mul_ten, ih]

/-- The sign of a decimal is the sign of its number. -/
theorem toBinary64_of_names {d : Decimal} {x : Magnitude} (h : d.names x = true)
    (negative : Bool) : d.toBinary64 negative = .finite negative x := by
  simp only [names, decide_eq_true_eq] at h
  revert h
  simp only [toBinary64, Binary64.ofRatio]
  split
  · simp
  split
  · simp
  split
  · simp
  split <;> split <;> simp

private theorem units_pos {x : Magnitude} (hx : x.mantissa ≠ 0) : 0 < x.units :=
  Nat.mul_pos (Nat.pos_of_ne_zero hx) (Nat.two_pow_pos _)

private theorem unitDigits_bounds : 10 ^ (673 : Nat) ≤ Magnitude.unitDigits ∧
    Magnitude.unitDigits * 2 ^ (2098 : Nat) ≤ 10 ^ (1474 : Nat) ∧ 0 < Magnitude.unitDigits := by
  decide +kernel

private theorem ten_pow (n : Nat) : 10 ^ n = 2 ^ n * 5 ^ n := Nat.mul_pow 2 5 n

/-- The exact decimal value of a magnitude has between 674 and 1474 places. -/
private theorem places_exact {x : Magnitude} (hx : x.mantissa ≠ 0) :
    673 < (Nat.toDigits 10 x.exact.digits).length ∧
      (Nat.toDigits 10 x.exact.digits).length ≤ 1474 := by
  obtain ⟨hlow, hhigh, hpos⟩ := unitDigits_bounds
  have hbound : x.units < 2 ^ (2098 : Nat) := by
    calc x.units < 2 ^ 53 * 2 ^ x.exponent :=
          Nat.mul_lt_mul_of_pos_right x.mantissa_lt (Nat.two_pow_pos _)
      _ = 2 ^ (53 + x.exponent) := (Nat.pow_add 2 53 x.exponent).symm
      _ ≤ 2 ^ (2098 : Nat) := Nat.pow_le_pow_right (by decide) (by have := x.exponent_le; omega)
  constructor
  · rw [← Nat.not_le, Nat.length_toDigits_le_iff (by decide) (by decide), Nat.not_lt]
    exact Nat.le_trans hlow (Nat.le_mul_of_pos_right _ (units_pos hx))
  · rw [Nat.length_toDigits_le_iff (by decide) (by decide)]
    exact Nat.lt_of_lt_of_le (Nat.mul_lt_mul_of_pos_left hbound hpos) hhigh

/-- Ten to the 1074th splits into the digits of one unit and the units in one. -/
private theorem ofRatio_exact (x : Magnitude) {n : Nat} (hn : n = 1074) :
    Binary64.ofRatio false x.exact.digits (10 ^ n) = .finite false x := by
  have hten : 10 ^ n = Magnitude.unitsInOne * Magnitude.unitDigits := by
    unfold Magnitude.unitsInOne Magnitude.unitDigits
    rw [hn]
    exact ten_pow 1074
  have hpos := unitDigits_bounds.2.2
  rw [hten, Magnitude.exact, Nat.mul_comm, Nat.mul_comm Magnitude.unitsInOne,
    Nat.mul_comm Magnitude.unitDigits, ofRatio_mul_right false _ _ hpos, Binary64.ofRatio,
    Magnitude.nearest?_units]

/-- The exact decimal value of a magnitude names it. -/
theorem names_exact {x : Magnitude} (hx : x.mantissa ≠ 0) : x.exact.names x = true := by
  have hplaces := places_exact hx
  have hratio := ofRatio_exact x (n := 1073 + 1) rfl
  have hdigits : x.exact.digits ≠ 0 := by
    intro hzero
    rw [hzero] at hplaces
    exact absurd hplaces.1 (by decide)
  have hexponent : x.exact.exponent = .negSucc 1073 := rfl
  have hvalue : x.exact.toBinary64 false = .finite false x := by
    rw [toBinary64, if_neg hdigits, hexponent]
    simp only
    rw [if_neg (by omega), if_neg (by omega)]
    exact hratio
  rw [names, hvalue, decide_eq_true_eq]

end Decimal

namespace Magnitude

/-- The shortest decimal of a magnitude names it. -/
theorem names_shortest {x : Magnitude} (hx : x.mantissa ≠ 0) : x.shortest.names x = true := by
  simp only [shortest]
  generalize hsearch : (List.range 17).findSome? _ = found
  cases found with
  | none => exact Decimal.names_exact hx
  | some d =>
    obtain ⟨n, -, hn⟩ := List.exists_of_findSome?_eq_some hsearch
    have hmem : d ∈ x.onGrid (x.scale - (Int.ofNat n + 1)) := List.mem_of_mem_head? hn
    simp only [onGrid, List.mem_filter] at hmem
    exact hmem.2

/-- The shortest decimal of a magnitude above zero has digits. -/
theorem digits_shortest_ne_zero {x : Magnitude} (hx : x.mantissa ≠ 0) :
    x.shortest.digits ≠ 0 := by
  intro hzero
  have hvalue := Decimal.toBinary64_of_names (names_shortest hx) false
  rw [Decimal.toBinary64, if_pos hzero, Binary64.finite.injEq] at hvalue
  exact hx (by rw [← hvalue.2]; rfl)

end Magnitude
end ToolBindings
