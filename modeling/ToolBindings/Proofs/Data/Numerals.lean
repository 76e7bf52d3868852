import ToolBindings.Data.Basic
import ToolBindings.Proofs.Decimal.Layout

/-!
# Numbers as words

Integers and finite binary64 numbers are written as a proper numeral after an optional minus
(`spells_int`, `spells_finite`), and a proper numeral starts with a digit and holds no other
characters than digits, signs, points and exponent marks. Every reader of numbers needs no more.
-/

namespace ToolBindings.Numeral

variable {κ τ : Type}

/-- The number that a numeral denotes. -/
def value (n : Numeral) : Data κ τ :=
  match n.toInt? with
  | some i => .int i
  | none => .float n.toBinary64

/-- A minus for a negative number. -/
def minus (negative : Bool) : List Char := if negative then ['-'] else []

/-- A text after an optional minus is a proper numeral and denotes the number. -/
def Spells (negative : Bool) (s : List Char) (v : Data κ τ) : Prop :=
  ∃ n, unsigned? negative s = some n ∧ n.IsProper ∧ n.value = v

/-! ## Integers -/

theorem decimalInt_eq (i : Int) :
    Text.decimalInt i = minus (decide (i < 0)) ++ Text.decimal i.natAbs := by
  cases i with
  | ofNat n => rfl
  | negSucc n =>
    rw [decide_eq_true (Int.negSucc_lt_zero n)]
    rfl

theorem spells_int (i : Int) :
    Spells (decide (i < 0)) (Text.decimal i.natAbs) (.int i : Data κ τ) := by
  have hdigits : ∀ c ∈ Text.decimal i.natAbs, c.isDigit = true :=
    fun _ hc => Text.isDigit_of_mem_decimal hc
  have hread := unsigned?_digits (decide (i < 0)) hdigits
  refine ⟨_, hread, ⟨Text.decimal_ne_nil _, ?_, by simp⟩, ?_⟩
  · intro hhead
    have hzero := Text.head_decimal hhead
    show (Text.decimal i.natAbs).length = 1
    rw [hzero]
    rfl
  · simp only [value, toInt?, Text.decimalValue_decimal, decide_eq_true_eq]
    congr 1
    split <;> omega

/-! ## Finite numbers -/

theorem spells_finite (negative : Bool) (x : Magnitude) :
    Spells negative (Layout.magnitude x) (.float (.finite negative x) : Data κ τ) := by
  obtain ⟨n, hread, hproper, hint, hvalue⟩ := Layout.writes_magnitude negative x
  refine ⟨n, hread, hproper, ?_⟩
  rw [value, hint, hvalue]

/-! ## Characters -/

/-- The characters of numerals. -/
def isPart (c : Char) : Bool :=
  c.isDigit || c == '.' || c == 'e' || c == 'E' || c == '+' || c == '-'

private theorem isDigit_of_mem_digits {s : List Char} : ∀ c ∈ (digits s).1, c.isDigit = true :=
  List.all_eq_true.1 List.all_takeWhile

private theorem isPart_of_digits {s : List Char} (h : ∀ c ∈ (digits s).2, isPart c = true) :
    ∀ c ∈ s, isPart c = true := by
  intro c hc
  have hsplit : s = (digits s).1 ++ (digits s).2 := List.takeWhile_append_dropWhile.symm
  rw [hsplit, List.mem_append] at hc
  rcases hc with hc | hc
  · simp [isPart, isDigit_of_mem_digits c hc]
  · exact h c hc

private theorem isPart_of_sign {s : List Char} (h : ∀ c ∈ (sign s).2, isPart c = true) :
    ∀ c ∈ s, isPart c = true := by
  unfold sign at h
  split at h
  · simpa [isPart] using h
  · simpa [isPart] using h
  · exact h

private theorem isPart_of_exponent? {s : List Char} {e : Option Int} (h : exponent? s = some e) :
    ∀ c ∈ s, isPart c = true := by
  cases s with
  | nil => simp
  | cons c rest =>
    rw [exponent?] at h
    split at h
    · rename_i hmark
      by_cases hend : (digits (sign rest).2).1.isEmpty = true ∨ (digits (sign rest).2).2 ≠ []
      · simp only [hend, if_true] at h
        cases h
      · rw [not_or, Decidable.not_not] at hend
        have hrest : ∀ d ∈ rest, isPart d = true := by
          apply isPart_of_sign
          apply isPart_of_digits
          rw [hend.2]
          simp
        intro d hd
        rcases List.mem_cons.1 hd with rfl | hd
        · rcases hmark with rfl | rfl <;> rfl
        · exact hrest d hd
    · cases h

theorem isPart_of_unsigned? {negative : Bool} {s : List Char} {n : Numeral}
    (h : unsigned? negative s = some n) : ∀ c ∈ s, isPart c = true := by
  apply isPart_of_digits
  simp only [unsigned?] at h
  split at h
  · rename_i rest hrest
    obtain ⟨e, he, -⟩ := Option.map_eq_some_iff.1 h
    have hfraction : ∀ c ∈ rest, isPart c = true := isPart_of_digits (isPart_of_exponent? he)
    rw [hrest]
    intro c hc
    rcases List.mem_cons.1 hc with rfl | hc
    · rfl
    · exact hfraction c hc
  · obtain ⟨e, he, -⟩ := Option.map_eq_some_iff.1 h
    exact isPart_of_exponent? he

/-- A class with the digits and the other characters of numerals has those of every number. -/
theorem forall_mem_of_spells {p : Char → Bool} (hdigits : ∀ c, c.isDigit = true → p c = true)
    (hothers : ['.', 'e', 'E', '+', '-'].all p = true) {negative : Bool} {s : List Char}
    {v : Data κ τ} (h : Spells negative s v) : ∀ c ∈ minus negative ++ s, p c = true := by
  have hparts : ∀ c, isPart c = true → p c = true := by
    intro c hc
    by_cases hdigit : c.isDigit = true
    · exact hdigits c hdigit
    · apply List.all_eq_true.1 hothers
      simpa [isPart, hdigit, or_assoc] using hc
  obtain ⟨n, hread, -, -⟩ := h
  intro c hc
  apply hparts
  rcases List.mem_append.1 hc with hsign | hc
  · cases negative with
    | true =>
      rw [List.mem_singleton.1 hsign]
      rfl
    | false => cases hsign
  · exact isPart_of_unsigned? hread c hc

/-- A numeral with a digit before its point starts with a digit. -/
theorem exists_digit_of_unsigned? {negative : Bool} {s : List Char} {n : Numeral}
    (h : unsigned? negative s = some n) (hwhole : n.whole ≠ []) :
    ∃ c rest, s = c :: rest ∧ c.isDigit = true := by
  have hn : n.whole = s.takeWhile Char.isDigit := by
    simp only [unsigned?, digits] at h
    split at h
    · obtain ⟨e, -, rfl⟩ := Option.map_eq_some_iff.1 h
      rfl
    · obtain ⟨e, -, rfl⟩ := Option.map_eq_some_iff.1 h
      rfl
  rw [hn] at hwhole
  cases s with
  | nil => exact absurd rfl hwhole
  | cons c rest =>
    refine ⟨c, rest, rfl, ?_⟩
    rw [List.takeWhile_cons] at hwhole
    split at hwhole
    · assumption
    · exact absurd rfl hwhole

end ToolBindings.Numeral
