import ToolBindings.Decimal.Layout
import ToolBindings.Proofs.Decimal.Rounding
import ToolBindings.Proofs.Text.Scan

/-!
# Numbers read back

The text of a finite number is a numeral that denotes exactly this number, whichever of the two
notations it is written in, and one that no integer is written as.
-/

namespace ToolBindings

namespace Numeral

/-! ## Parts of numerals -/

theorem digits_append {ds rest : List Char} (hds : ∀ c ∈ ds, c.isDigit = true)
    (hrest : Text.StopsAt Char.isDigit rest) : digits (ds ++ rest) = (ds, rest) := by
  rw [digits, Text.takeWhile_run hds hrest, Text.dropWhile_run hds hrest]

theorem digits_self {ds : List Char} (hds : ∀ c ∈ ds, c.isDigit = true) : digits ds = (ds, []) := by
  have h := digits_append hds (Text.stopsAt_nil _)
  rwa [List.append_nil] at h

/-- Digits alone are a numeral without point and exponent. -/
theorem unsigned?_digits (negative : Bool) {ds : List Char} (hds : ∀ c ∈ ds, c.isDigit = true) :
    unsigned? negative ds = some ⟨negative, ds, none, none⟩ := by
  rw [unsigned?, digits_self hds]
  rfl

theorem unsigned?_fraction (negative : Bool) {ws fs rest : List Char}
    (hws : ∀ c ∈ ws, c.isDigit = true) (hfs : ∀ c ∈ fs, c.isDigit = true)
    (hrest : Text.StopsAt Char.isDigit rest) :
    unsigned? negative (ws ++ '.' :: (fs ++ rest))
      = (exponent? rest).map fun e => ⟨negative, ws, some fs, e⟩ := by
  rw [unsigned?, digits_append hws (by simp [Char.isDigit])]
  simp only [digits_append hfs hrest]

theorem unsigned?_exponent (negative : Bool) {ws : List Char}
    (hws : ∀ c ∈ ws, c.isDigit = true) (rest : List Char) :
    unsigned? negative (ws ++ 'e' :: rest)
      = (exponent? ('e' :: rest)).map fun e => ⟨negative, ws, none, e⟩ := by
  rw [unsigned?, digits_append hws (by simp [Char.isDigit])]
  rfl

/-- The exponent of the scientific notation. -/
theorem exponent?_signed (exponent : Int) :
    exponent? ('e' :: (if exponent < 0 then '-' else '+') ::
      Text.paddedDecimal 2 exponent.natAbs) = some (some exponent) := by
  have hpadded : ∀ c ∈ Text.paddedDecimal 2 exponent.natAbs, c.isDigit = true :=
    fun _ hc => Text.isDigit_of_mem_paddedDecimal hc
  have hdigits := digits_self hpadded
  by_cases h : exponent < 0
  · have hvalue : -(exponent.natAbs : Int) = exponent := by omega
    simp only [exponent?, h, if_true, sign, hdigits, Text.decimalValue_paddedDecimal, hvalue]
    simp [Text.paddedDecimal_ne_nil]
  · have hvalue : (exponent.natAbs : Int) = exponent := by omega
    simp only [exponent?, h, if_false, sign, hdigits, Text.decimalValue_paddedDecimal, hvalue]
    simp [Text.paddedDecimal_ne_nil]

/-- A numeral with a digit before its point, one digit only if that is a zero, and one after its
point if it has a point. -/
def IsProper (n : Numeral) : Prop :=
  n.whole ≠ [] ∧ (n.whole.head? = some '0' → n.whole.length = 1) ∧ n.fraction ≠ some []

end Numeral

namespace Layout

/-- A text writes a number: it is a proper numeral, none of an integer, and denotes the number. -/
def Writes (negative : Bool) (s : List Char) (x : Binary64) : Prop :=
  ∃ n, Numeral.unsigned? negative s = some n ∧ n.IsProper ∧ n.toInt? = none ∧ n.toBinary64 = x

/-! ## Positional notation -/

section Notation

variable (negative : Bool) {n : Nat}

private theorem isDigit_decimal (n : Nat) : ∀ c ∈ Text.decimal n, c.isDigit = true :=
  fun _ hc => Text.isDigit_of_mem_decimal hc

/-- A fraction below one: zeros, then all the digits. -/
private theorem writes_below_one (zeros : Nat) :
    Writes negative ('0' :: '.' :: (List.replicate zeros '0' ++ Text.decimal n))
      (Decimal.toBinary64 negative ⟨n, -(zeros + (Text.decimal n).length : Nat)⟩) := by
  have hfraction : ∀ c ∈ List.replicate zeros '0' ++ Text.decimal n, c.isDigit = true := by
    intro c hc
    rcases List.mem_append.1 hc with h | h
    · rw [List.eq_of_mem_replicate h]
      rfl
    · exact isDigit_decimal n c h
  have hwhole : ∀ c ∈ ['0'], c.isDigit = true := by simp [Char.isDigit]
  have hread := Numeral.unsigned?_fraction negative hwhole hfraction (Text.stopsAt_nil _)
  rw [List.append_nil] at hread
  refine ⟨_, hread, ⟨by simp, by simp, by simp [Text.decimal_ne_nil]⟩, rfl, ?_⟩
  have hvalue : Text.decimalValue (['0'] ++ (List.replicate zeros '0' ++ Text.decimal n)) = n := by
    have hzero := Text.decimalValue_zeros_append (zeros + 1) (Text.decimal n)
    rwa [Text.decimalValue_decimal, List.replicate_succ, List.cons_append] at hzero
  simp only [Numeral.toBinary64, Numeral.decimal, Option.getD_some, Option.getD_none, hvalue]
  congr 2
  simp

/-- A point between the digits. -/
private theorem writes_split {whole fraction : List Char} (hsplit : Text.decimal n = whole ++ fraction)
    (hwhole : whole ≠ []) (hfraction : fraction ≠ []) :
    Writes negative (whole ++ '.' :: fraction)
      (Decimal.toBinary64 negative ⟨n, -(fraction.length : Nat)⟩) := by
  have hdigits := isDigit_decimal n
  rw [hsplit] at hdigits
  have hread := Numeral.unsigned?_fraction negative
    (fun c hc => hdigits c (List.mem_append_left _ hc))
    (fun c hc => hdigits c (List.mem_append_right _ hc)) (Text.stopsAt_nil _)
  rw [List.append_nil] at hread
  refine ⟨_, hread, ⟨hwhole, ?_, by simpa using hfraction⟩, rfl, ?_⟩
  · -- a zero in front would be the only digit, but there are at least two
    intro hhead
    have hlone : Text.decimal n = ['0'] := by
      apply Text.head_decimal
      rw [hsplit, List.head?_append, hhead]
      rfl
    rw [hlone] at hsplit
    have hlength := congrArg List.length hsplit
    rw [List.length_append, List.length_singleton] at hlength
    have hfraction := List.length_pos_iff.2 hfraction
    have hwhole := List.length_pos_iff.2 hwhole
    show whole.length = 1
    omega
  · have hvalue : Text.decimalValue (whole ++ fraction) = n := by
      rw [← hsplit, Text.decimalValue_decimal]
    simp [Numeral.toBinary64, Numeral.decimal, hvalue]

/-- All the digits, zeros up to the point, and a zero behind it. -/
private theorem writes_integer (hn : 0 < n) (zeros : Nat) :
    Writes negative (Text.decimal n ++ List.replicate zeros '0' ++ ['.', '0'])
      (Decimal.toBinary64 negative ⟨n, (zeros : Nat)⟩) := by
  have hwhole : ∀ c ∈ Text.decimal n ++ List.replicate zeros '0', c.isDigit = true := by
    rw [← Text.decimal_mul_pow hn]
    exact isDigit_decimal _
  have hzero : ∀ c ∈ ['0'], c.isDigit = true := by simp [Char.isDigit]
  have hread := Numeral.unsigned?_fraction negative hwhole hzero (Text.stopsAt_nil _)
  rw [List.append_nil] at hread
  refine ⟨_, hread, ⟨by simp [Text.decimal_ne_nil], ?_, by simp⟩, rfl, ?_⟩
  · intro hhead
    rw [← Text.decimal_mul_pow hn] at hhead ⊢
    rw [Text.head_decimal hhead]
    rfl
  · have hvalue : Text.decimalValue (Text.decimal n ++ List.replicate zeros '0' ++ ['0'])
        = n * 10 ^ (zeros + 1) := by
      rw [List.append_assoc, ← List.replicate_succ', Text.decimalValue_append_zeros,
        Text.decimalValue_decimal]
    have hshift := Decimal.toBinary64_mul_pow negative n zeros (zeros + 1)
    have hexponent : (zeros : Int) - ((zeros + 1 : Nat) : Int) = -1 := by omega
    rw [hexponent] at hshift
    simp only [Numeral.toBinary64, Numeral.decimal, Option.getD_some, hvalue]
    exact hshift

/-- A point behind the first digits, if there are more. -/
private theorem writes_inside {places : Nat} (hplaces : 0 < places)
    (hlong : places < (Text.decimal n).length) {exponent : Int}
    (hexponent : ((Text.decimal n).length : Int) + exponent = places) :
    Writes negative
      ((Text.decimal n).take places ++ '.' :: (Text.decimal n).drop places)
      (Decimal.toBinary64 negative ⟨n, exponent⟩) := by
  have hdrop : (Text.decimal n).drop places ≠ [] := by
    intro hnil
    rw [List.drop_eq_nil_iff] at hnil
    omega
  have htake : (Text.decimal n).take places ≠ [] := by
    intro hnil
    have hlength := congrArg List.length hnil
    rw [List.length_take, List.length_nil] at hlength
    omega
  have h := writes_split negative (n := n) (List.take_append_drop places _).symm htake hdrop
  have hbehind : -(((Text.decimal n).drop places).length : Int) = exponent := by
    rw [List.length_drop]
    omega
  rwa [hbehind] at h

theorem writes_positional (hn : 0 < n) (exponent : Int) :
    Writes negative (positional (Text.decimal n) ((Text.decimal n).length + exponent))
      (Decimal.toBinary64 negative ⟨n, exponent⟩) := by
  generalize hpoint : ((Text.decimal n).length : Int) + exponent = point
  -- the point is before the digits, or behind or among them, or there are zeros before them
  rcases point with (_ | p) | k
  · have h := writes_below_one negative (n := n) 0
    rw [Nat.zero_add, show -((Text.decimal n).length : Int) = exponent by
      simp only [Int.ofNat_eq_natCast] at hpoint
      omega] at h
    exact h
  · simp only [Int.ofNat_eq_natCast] at hpoint
    by_cases hfits : (Text.decimal n).length ≤ p + 1
    · have h := writes_integer negative hn (p + 1 - (Text.decimal n).length)
      have hexponent : ((p + 1 - (Text.decimal n).length : Nat) : Int) = exponent := by omega
      rw [hexponent] at h
      have htext : positional (Text.decimal n) (Int.ofNat (p + 1)) = Text.decimal n ++
          List.replicate (p + 1 - (Text.decimal n).length) '0' ++ ['.', '0'] := by
        simp only [positional, List.take_of_length_le hfits, List.drop_eq_nil_of_le hfits]
        rfl
      rwa [htext]
    · have hlong : p + 1 < (Text.decimal n).length := Nat.lt_of_not_le hfits
      have htext : positional (Text.decimal n) (Int.ofNat (p + 1))
          = (Text.decimal n).take (p + 1) ++ '.' :: (Text.decimal n).drop (p + 1) := by
        have hzeros : p + 1 - ((Text.decimal n).take (p + 1)).length = 0 := by
          rw [List.length_take]
          omega
        have hempty : ((Text.decimal n).drop (p + 1)).isEmpty = false := by
          rw [List.isEmpty_eq_false_iff, ne_eq, List.drop_eq_nil_iff]
          omega
        simp only [positional, hzeros, hempty, List.replicate_zero, List.append_nil]
        rfl
      rw [htext]
      exact writes_inside negative (Nat.succ_pos p) hlong hpoint
  · have h := writes_below_one negative (n := n) (k + 1)
    have hexponent : -((k + 1 + (Text.decimal n).length : Nat) : Int) = exponent := by omega
    rw [hexponent] at h
    exact h

/-! ## Scientific notation -/

theorem writes_scientific (exponent : Int) :
    Writes negative (scientific (Text.decimal n) ((Text.decimal n).length + exponent - 1))
      (Decimal.toBinary64 negative ⟨n, exponent⟩) := by
  generalize hmark : ((Text.decimal n).length : Int) + exponent - 1 = mark
  have hread := Numeral.exponent?_signed mark
  have hdigits := isDigit_decimal n
  obtain ⟨c, fraction, hc⟩ := List.exists_cons_of_ne_nil (Text.decimal_ne_nil n)
  have hvalue : Text.decimalValue (c :: fraction) = n := by
    rw [← hc, Text.decimalValue_decimal]
  have hexponent : mark - (fraction.length : Int) = exponent := by
    have hlength := congrArg List.length hc
    rw [List.length_cons] at hlength
    omega
  rw [hc] at hdigits ⊢
  have hwhole : ∀ d ∈ [c], d.isDigit = true := by
    intro d hd
    rw [List.mem_singleton.1 hd]
    exact hdigits c List.mem_cons_self
  -- a single digit has no point behind it
  cases fraction with
  | nil =>
    have h := Numeral.unsigned?_exponent negative hwhole
      ((if mark < 0 then '-' else '+') :: Text.paddedDecimal 2 mark.natAbs)
    rw [hread] at h
    refine ⟨_, h, ⟨by simp, by simp, by simp⟩, rfl, ?_⟩
    simp only [Numeral.toBinary64, Numeral.decimal, Option.getD_none, Option.getD_some,
      List.append_nil, hvalue, hexponent]
  | cons d fraction =>
    have hstop : Text.StopsAt Char.isDigit
        ('e' :: (if mark < 0 then '-' else '+') :: Text.paddedDecimal 2 mark.natAbs) := by
      simp [Char.isDigit]
    have h := Numeral.unsigned?_fraction negative hwhole
      (fun e he => hdigits e (List.mem_cons_of_mem c he)) hstop
    rw [hread] at h
    have htext : scientific (c :: d :: fraction) mark = [c] ++ '.' :: (d :: fraction ++
        'e' :: (if mark < 0 then '-' else '+') :: Text.paddedDecimal 2 mark.natAbs) := by
      simp [scientific]
    rw [htext]
    refine ⟨_, h, ⟨by simp, by simp, by simp⟩, rfl, ?_⟩
    simp only [Numeral.toBinary64, Numeral.decimal, Option.getD_some, List.cons_append,
      List.nil_append, hvalue, hexponent]

end Notation

/-! ## Finite numbers -/

/-- The text of a magnitude denotes exactly this magnitude. -/
theorem writes_magnitude (negative : Bool) (x : Magnitude) :
    Writes negative (magnitude x) (.finite negative x) := by
  by_cases hx : x.mantissa = 0
  · have hzero : x = .zero := by
      obtain ⟨m, e, hm, he, hnormal⟩ := x
      simp only at hx
      subst hx
      have : e = 0 := by omega
      subst this
      rfl
    rw [magnitude, if_pos hx, hzero]
    exact ⟨⟨negative, ['0'], some ['0'], none⟩, rfl, ⟨by simp, by simp, by simp⟩, rfl, rfl⟩
  · have hdigits := Nat.pos_of_ne_zero (Magnitude.digits_shortest_ne_zero hx)
    have hvalue := Decimal.toBinary64_of_names (Magnitude.names_shortest hx) negative
    rw [magnitude, if_neg hx, ← hvalue]
    simp only
    split
    · exact writes_positional negative hdigits _
    · exact writes_scientific negative _

end Layout
end ToolBindings
