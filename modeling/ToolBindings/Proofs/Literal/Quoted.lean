import ToolBindings.Literal.Quoted
import ToolBindings.Proofs.Text.Digits

/-!
# Quoted texts read back

The quoted form of any text is read as this text, up to the closing quote and no further.
-/

namespace ToolBindings.Literal

theorem quoteOf_eq (s : List Char) : quoteOf s = '\'' ∨ quoteOf s = '"' := by
  rw [quoteOf]
  split
  · exact Or.inr rfl
  · exact Or.inl rfl

theorem charOf?_toNat (c : Char) : charOf? c.toNat = some c := by
  have hvalid : c.toNat.isValidChar := c.valid
  rw [charOf?, if_pos hvalid, Char.ofNat_toNat]

/-- What the text after one more character reads as. -/
private def prepend (c : Char) (read : Option (List Char × List Char)) :
    Option (List Char × List Char) :=
  read.map fun p => (c :: p.1, p.2)

section

variable {quote : Char} (rest : List Char)

/-- A character that stands for itself. -/
private theorem body?_plain {c : Char} (hquote : c ≠ quote) (hslash : c ≠ '\\') (hline : c ≠ '\n') :
    body? quote (c :: rest) = prepend c (body? quote rest) := by
  rw [body?]
  · rw [if_neg hquote, if_neg (by simp [hline, hslash])]
    cases body? quote rest <;> rfl
  · intros
    contradiction
  · intros
    contradiction
  · intros
    contradiction
  · intros
    contradiction

/-- A character that a one-letter escape stands for. -/
private theorem body?_letter {e c : Char} (he : escape? e = some c) :
    body? quote ('\\' :: e :: rest) = prepend c (body? quote rest) := by
  have hletter : e ≠ 'x' ∧ e ≠ 'u' ∧ e ≠ 'U' := by
    refine ⟨?_, ?_, ?_⟩ <;> rintro rfl <;> cases he
  rw [body?]
  · rw [he]
    cases body? quote rest <;> rfl
  · intros
    exact absurd ‹_› hletter.1
  · intros
    exact absurd ‹_› hletter.2.1
  · intros
    exact absurd ‹_› hletter.2.2

/-- A character that its number stands for. -/
private theorem body?_numberEscape (c : Char) :
    body? quote (numberEscape c.toNat ++ rest) = prepend c (body? quote rest) := by
  have hfits : c.toNat < 16 ^ 8 := by
    have hvalid : c.toNat.isValidChar := c.valid
    rcases hvalid with h | h <;> omega
  have hchar : (some c.toNat).bind charOf? = some c := charOf?_toNat c
  rw [numberEscape]
  split
  · have h : c.toNat < 16 ^ 2 := ‹_›
    have hvalue := Text.hexGroupValue?_hexGroup h
    obtain ⟨a, b, hdigits⟩ : ∃ a b, Text.hexGroup 2 c.toNat = [a, b] := ⟨_, _, rfl⟩
    rw [hdigits] at hvalue ⊢
    simp only [List.cons_append, List.nil_append]
    rw [body?, hvalue, hchar]
    cases body? quote rest <;> rfl
  · split
    · have h : c.toNat < 16 ^ 4 := ‹_›
      have hvalue := Text.hexGroupValue?_hexGroup h
      obtain ⟨a, b, d, e, hdigits⟩ : ∃ a b d e, Text.hexGroup 4 c.toNat = [a, b, d, e] :=
        ⟨_, _, _, _, rfl⟩
      rw [hdigits] at hvalue ⊢
      simp only [List.cons_append, List.nil_append]
      rw [body?, hvalue, hchar]
      cases body? quote rest <;> rfl
    · have hvalue := Text.hexGroupValue?_hexGroup hfits
      obtain ⟨a, b, d, e, f, g, h, i, hdigits⟩ :
          ∃ a b d e f g h i, Text.hexGroup 8 c.toNat = [a, b, d, e, f, g, h, i] :=
        ⟨_, _, _, _, _, _, _, _, rfl⟩
      rw [hdigits] at hvalue ⊢
      simp only [List.cons_append, List.nil_append]
      rw [body?, hvalue, hchar]
      cases body? quote rest <;> rfl

/-- An escaped character reads as this character. -/
private theorem body?_escapeChar (hquote : quote = '\'' ∨ quote = '"') (c : Char) :
    body? quote (escapeChar quote c ++ rest) = prepend c (body? quote rest) := by
  rw [escapeChar]
  split
  · rename_i h
    have hletter : escape? c = some c := by
      rcases h with rfl | rfl
      · rcases hquote with rfl | rfl <;> rfl
      · rfl
    exact body?_letter rest hletter
  · rename_i hplain
    rw [not_or] at hplain
    split
    · rename_i h
      rw [h]
      exact body?_letter rest rfl
    · rename_i hline
      split
      · rename_i h
        rw [h]
        exact body?_letter rest rfl
      · split
        · rename_i h
          rw [h]
          exact body?_letter rest rfl
        · split
          · exact body?_plain rest hplain.1 hplain.2 hline
          · exact body?_numberEscape rest c

end

/-- The characters between quotes read as the text, up to the closing quote. -/
theorem body?_escaped {quote : Char} (hquote : quote = '\'' ∨ quote = '"') (s rest : List Char) :
    body? quote (s.flatMap (escapeChar quote) ++ quote :: rest) = some (s, rest) := by
  induction s with
  | nil =>
    have hslash : quote ≠ '\\' := by
      rcases hquote with rfl | rfl <;> decide
    rw [List.flatMap_nil, List.nil_append]
    rw [body?]
    · rw [if_pos rfl]
    all_goals
      intros
      contradiction
  | cons c s ih =>
    rw [List.flatMap_cons, List.append_assoc, body?_escapeChar _ hquote, ih]
    rfl

end ToolBindings.Literal
