import ToolBindings.Proofs.Text.Digits
import ToolBindings.Text.Printable

/-!
# Printable texts

Texts all of whose characters are printed as they are. ASCII is printable from the blank up to the
tilde, and so are the numerals; a line end is not, so a printable text is one line.
-/

namespace ToolBindings.Text

/-- Every character is printed as it is. -/
def Printable (s : List Char) : Prop := ∀ c ∈ s, isPrintable c = true

variable {c : Char} {s t : List Char}

@[simp] theorem printable_nil : Printable [] := List.forall_mem_nil _

@[simp] theorem printable_cons : Printable (c :: s) ↔ isPrintable c = true ∧ Printable s :=
  List.forall_mem_cons

@[simp] theorem printable_append : Printable (s ++ t) ↔ Printable s ∧ Printable t :=
  List.forall_mem_append

theorem isPrintable_of_ascii (hlow : 32 ≤ c.toNat) (hhigh : c.toNat < 127) :
    isPrintable c = true := by
  unfold isPrintable
  simp [hlow, hhigh]

theorem isPrintable_of_isAlphanum (h : c.isAlphanum = true) : isPrintable c = true := by
  have hrange := toNat_of_isAlphanum h
  apply isPrintable_of_ascii <;> omega

theorem printable_hexGroup (width n : Nat) : Printable (hexGroup width n) :=
  fun _ h => isPrintable_of_isAlphanum (isAlphanum_of_mem_hexGroup h)

/-- A printable text has no line end. -/
theorem Printable.not_lineEnd (h : Printable s) (hc : c ∈ s) : c ≠ '\n' ∧ c ≠ '\r' := by
  have hprintable := h c hc
  constructor
  · rintro rfl
    revert hprintable
    decide
  · rintro rfl
    revert hprintable
    decide

end ToolBindings.Text
