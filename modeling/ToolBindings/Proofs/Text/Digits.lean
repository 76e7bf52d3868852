import ToolBindings.Text.Digits

/-!
# Reading digits back

Decimal and hexadecimal numerals denote the number that they were written for, whatever leading
part was read before them.
-/

namespace ToolBindings.Text

-- A power of naturals is that of the core library, whatever else is imported.
attribute [local instance (high)] instPowNat

/-! ## Decimal -/

theorem isDigit_of_mem_decimal {n : Nat} {c : Char} (h : c ∈ decimal n) : c.isDigit :=
  Nat.isDigit_of_mem_toDigits (by decide) (by decide) h

theorem not_isAlpha_of_isDigit {c : Char} (h : c.isDigit = true) : ¬c.isAlpha = true := by
  delta Char.isAlpha Char.isUpper Char.isLower
  simp [Char.isDigit, UInt32.le_iff_toNat_le] at h ⊢
  omega

theorem decimal_ne_nil (n : Nat) : decimal n ≠ [] := Nat.toDigits_ne_nil

theorem decimalValueFrom_append (acc : Nat) (s t : List Char) :
    decimalValueFrom acc (s ++ t) = decimalValueFrom (decimalValueFrom acc s) t :=
  Nat.ofDigitChars_append acc

/-- A run of digits shifts the part before it to the left. -/
theorem decimalValueFrom_eq (acc : Nat) (s : List Char) :
    decimalValueFrom acc s = 10 ^ s.length * acc + decimalValue s :=
  Nat.ofDigitChars_eq_ofDigitChars_zero

/-- The decimal text of a number denotes that number. -/
@[simp] theorem decimalValue_decimal (n : Nat) : decimalValue (decimal n) = n :=
  Nat.ofDigitChars_ten_toDigits

theorem decimalValueFrom_zeros (acc k : Nat) :
    decimalValueFrom acc (List.replicate k '0') = 10 ^ k * acc :=
  Nat.ofDigitChars_replicate_zero

theorem decimalValue_append (s t : List Char) :
    decimalValue (s ++ t) = 10 ^ t.length * decimalValue s + decimalValue t := by
  show decimalValueFrom 0 (s ++ t) = _
  rw [decimalValueFrom_append, decimalValueFrom_eq]
  rfl

/-- Zeros in front of a numeral do not change what it denotes. -/
theorem decimalValue_zeros_append (k : Nat) (s : List Char) :
    decimalValue (List.replicate k '0' ++ s) = decimalValue s := by
  have hzeros : decimalValue (List.replicate k '0') = 0 := by
    show decimalValueFrom 0 (List.replicate k '0') = 0
    rw [decimalValueFrom_zeros, Nat.mul_zero]
  rw [decimalValue_append, hzeros, Nat.mul_zero, Nat.zero_add]

theorem decimalValue_append_zeros (s : List Char) (k : Nat) :
    decimalValue (s ++ List.replicate k '0') = decimalValue s * 10 ^ k := by
  show decimalValueFrom 0 (s ++ List.replicate k '0') = _
  rw [decimalValueFrom_append, decimalValueFrom_zeros, Nat.mul_comm]
  rfl

/-- The decimal text of a number with more than one digit has no zero in front. -/
theorem head_decimal {n : Nat} (h : (decimal n).head? = some '0') : decimal n = ['0'] := by
  induction n using Nat.strongRecOn with
  | ind n ih =>
    by_cases hn : n < 10
    · have hone : decimal n = [n.digitChar] := Nat.toDigits_of_lt_base hn
      rw [hone] at h ⊢
      rw [List.head?_cons, Option.some.injEq] at h
      rw [h]
    · have hmore : decimal n = decimal (n / 10) ++ [(n % 10).digitChar] :=
        Nat.toDigits_of_base_le (by decide) (by omega)
      have hhead : (decimal (n / 10)).head? = some '0' := by
        obtain ⟨c, rest, hc⟩ := List.exists_cons_of_ne_nil (decimal_ne_nil (n / 10))
        rw [hmore, hc, List.cons_append, List.head?_cons] at h
        rw [hc, List.head?_cons, h]
      have hzero := ih (n / 10) (by omega) hhead
      -- a quotient written as a lone zero is zero, but `n` has two digits
      have hquotient : n / 10 = 0 := by
        rw [← decimalValue_decimal (n / 10), hzero]
        rfl
      omega

/-- A positive number followed by zeros is that number times a power of ten. -/
theorem decimal_mul_pow {n : Nat} (hn : 0 < n) (k : Nat) :
    decimal (n * 10 ^ k) = decimal n ++ List.replicate k '0' := by
  induction k with
  | zero => simp
  | succ k ih =>
    have hpos : 0 < n * 10 ^ k := Nat.mul_pos hn (Nat.pow_pos (by decide))
    have hstep : decimal (10 * (n * 10 ^ k) + 0) = decimal (n * 10 ^ k) ++ decimal 0 :=
      (Nat.toDigits_append_toDigits (by decide) hpos (by decide)).symm
    have hshift : n * 10 ^ (k + 1) = 10 * (n * 10 ^ k) + 0 := by
      rw [Nat.pow_succ, Nat.add_zero, ← Nat.mul_assoc, Nat.mul_comm]
    rw [hshift, hstep, ih, List.replicate_succ', List.append_assoc]
    rfl

theorem isDigit_of_mem_paddedDecimal {width n : Nat} {c : Char} (h : c ∈ paddedDecimal width n) :
    c.isDigit := by
  simp only [paddedDecimal, List.mem_append] at h
  rcases h with h | h
  · rw [List.eq_of_mem_replicate h]
    rfl
  · exact isDigit_of_mem_decimal h

@[simp] theorem decimalValue_paddedDecimal (width n : Nat) :
    decimalValue (paddedDecimal width n) = n := by
  simp only [paddedDecimal]
  rw [decimalValue_zeros_append, decimalValue_decimal]

theorem paddedDecimal_ne_nil (width n : Nat) : paddedDecimal width n ≠ [] := by
  simp [paddedDecimal, decimal_ne_nil]

/-! ## Hexadecimal -/

/-- A hexadecimal digit has the value that it was written for. -/
theorem hexValue?_hexDigit {n : Nat} (h : n < 16) : hexValue? (hexDigit n) = some n := by
  have hall : ∀ m : Fin 16, hexValue? (hexDigit m) = some m.val := by decide
  exact hall ⟨n, h⟩

theorem hexGroupValueFrom?_append (acc : Nat) (s t : List Char) :
    hexGroupValueFrom? acc (s ++ t)
      = (hexGroupValueFrom? acc s).bind fun n => hexGroupValueFrom? n t := by
  induction s generalizing acc with
  | nil => rfl
  | cons c s ih =>
    simp only [List.cons_append, hexGroupValueFrom?]
    cases hexValue? c with
    | none => rfl
    | some v => exact ih _

theorem hexGroupValueFrom?_hexGroup {width n : Nat} (h : n < 16 ^ width) (acc : Nat) :
    hexGroupValueFrom? acc (hexGroup width n) = some (16 ^ width * acc + n) := by
  induction width generalizing n with
  | zero =>
    have hn : n = 0 := by omega
    simp [hexGroup, hexGroupValueFrom?, hn]
  | succ width ih =>
    have hquotient : n / 16 < 16 ^ width := by
      rw [Nat.pow_succ] at h
      omega
    have hdigit : n % 16 < 16 := Nat.mod_lt _ (by decide)
    rw [hexGroup, hexGroupValueFrom?_append, ih hquotient]
    simp only [Option.bind_some, hexGroupValueFrom?, hexValue?_hexDigit hdigit, Nat.pow_succ]
    congr 1
    have hsplit := Nat.div_add_mod n 16
    rw [Nat.mul_add, ← Nat.mul_assoc, Nat.mul_comm 16 (16 ^ width)]
    omega

/-- A group of hexadecimal digits that is wide enough denotes the number it was written for. -/
theorem hexGroupValue?_hexGroup {width n : Nat} (h : n < 16 ^ width) :
    hexGroupValue? (hexGroup width n) = some n := by
  rw [hexGroupValue?, hexGroupValueFrom?_hexGroup h, Nat.mul_zero, Nat.zero_add]

@[simp] theorem length_hexGroup (width n : Nat) : (hexGroup width n).length = width := by
  induction width generalizing n with
  | zero => rfl
  | succ width ih => simp [hexGroup, ih]

/-- A group of hexadecimal digits has no other characters. -/
theorem mem_hexDigits_of_mem_hexGroup {width n : Nat} {c : Char} (h : c ∈ hexGroup width n) :
    c ∈ "0123456789abcdef".toList := by
  induction width generalizing n with
  | zero => cases h
  | succ width ih =>
    rw [hexGroup] at h
    rcases List.mem_append.1 h with h | h
    · exact ih h
    · have hall : ∀ m : Fin 16, hexDigit m ∈ "0123456789abcdef".toList := by decide
      rw [List.mem_singleton.1 h]
      exact hall ⟨n % 16, Nat.mod_lt n (by decide)⟩

/-- Letters and digits are ASCII characters. -/
theorem toNat_of_isAlphanum {c : Char} (h : c.isAlphanum = true) : 48 ≤ c.toNat ∧ c.toNat ≤ 122 := by
  rw [Char.isAlphanum] at h
  delta Char.isAlpha Char.isUpper Char.isLower at h
  simp [Char.isDigit, UInt32.le_iff_toNat_le] at h
  omega

theorem isAlphanum_of_mem_hexGroup {width n : Nat} {c : Char} (h : c ∈ hexGroup width n) :
    c.isAlphanum = true := by
  have hall : ∀ d ∈ "0123456789abcdef".toList, d.isAlphanum = true := List.all_eq_true.1 rfl
  exact hall c (mem_hexDigits_of_mem_hexGroup h)

end ToolBindings.Text
