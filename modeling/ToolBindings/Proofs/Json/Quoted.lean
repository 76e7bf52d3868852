import ToolBindings.Json.Lexer
import ToolBindings.Json.Printer
import ToolBindings.Proofs.Text.Digits

/-!
# Quoted texts of JSON read back

Any text in quotes is read as this text, whether or not the characters beyond ASCII are escaped. A
character outside the first plane is then a pair of 16-bit units, which are joined again. Halves of
pairs that stand apart stay as they are (`looseText_units`).
-/

namespace ToolBindings.Json

-- A power of naturals is that of the core library, whatever else is imported.
attribute [local instance (high)] instPowNat

/-! ## Units -/

/-- The first half of the pair of a character outside the first plane. -/
def highHalf (c : Char) : Nat := 0xD800 + (c.toNat - 0x10000) / 1024

/-- The second half. -/
def lowHalf (c : Char) : Nat := 0xDC00 + (c.toNat - 0x10000) % 1024

/-- The numbers that a character is written by. -/
def charUnits (ascii : Bool) (c : Char) : List Nat :=
  if ascii ∧ 0x10000 ≤ c.toNat then [highHalf c, lowHalf c] else [c.toNat]

/-- The numbers that a code point is written by. -/
def pointUnits (ascii : Bool) : CodePoint → List Nat
  | .char c => charUnits ascii c
  | .half k => [0xD800 + k.val]

/-- A code point inside quotes, with an escape for a half of a pair. -/
def escapedPoint (ascii : Bool) : CodePoint → List Char
  | .char c => escapeChar ascii c
  | .half k => unitEscape (0xD800 + k.val)

private theorem charUnits_of_lt {ascii : Bool} {c : Char} (h : c.toNat < 0x10000) :
    charUnits ascii c = [c.toNat] := by
  rw [charUnits, if_neg]
  omega

/-- What the text after more units reads as. -/
private def prependUnits (us : List Nat) (read : Option (List Nat × List Char)) :
    Option (List Nat × List Char) :=
  read.map fun p => (us ++ p.1, p.2)

/-- The numbers of characters stay clear of halves of pairs. -/
theorem toNat_bounds (c : Char) :
    c.toNat < 0xD800 ∨ 0xE000 ≤ c.toNat ∧ c.toNat < 0x110000 := by
  have hvalid : c.toNat.isValidChar := c.valid
  rcases hvalid with h | h <;> omega

section

variable (rest : List Char)

private theorem units?_plain {c : Char} (hquote : c ≠ '"') (hslash : c ≠ '\\')
    (hcontrol : ¬c.toNat < 32) :
    units? (c :: rest) = prependUnits [c.toNat] (units? rest) := by
  rw [units?]
  · rw [if_neg (by simp [hcontrol, hslash])]
    cases units? rest <;> rfl
  all_goals
    intros
    contradiction

private theorem units?_letter {e : Char} {n : Nat} (he : escape? e = some n) :
    units? ('\\' :: e :: rest) = prependUnits [n] (units? rest) := by
  have hletter : e ≠ 'u' := by
    rintro rfl
    cases he
  rw [units?]
  · rw [he]
    cases units? rest <;> rfl
  · intros
    contradiction

private theorem units?_unitEscape {n : Nat} (hn : n < 16 ^ (4 : Nat)) :
    units? (unitEscape n ++ rest) = prependUnits [n] (units? rest) := by
  have hvalue := Text.hexGroupValue?_hexGroup hn
  obtain ⟨a, b, c, d, hdigits⟩ : ∃ a b c d, Text.hexGroup 4 n = [a, b, c, d] :=
    ⟨_, _, _, _, rfl⟩
  rw [hdigits] at hvalue
  rw [unitEscape, hdigits]
  simp only [List.cons_append, List.nil_append]
  rw [units?, hvalue]
  cases units? rest <;> rfl

/-- A character beyond the first plane reads as its two halves. -/
private theorem units?_pair {c : Char} (hhigh : 0x10000 ≤ c.toNat) :
    units? (unitEscape (highHalf c) ++ unitEscape (lowHalf c) ++ rest)
      = prependUnits [highHalf c, lowHalf c] (units? rest) := by
  have hbounds := toNat_bounds c
  have hfirst := units?_unitEscape (unitEscape (lowHalf c) ++ rest) (n := highHalf c)
    (by rw [highHalf]; omega)
  have hsecond := units?_unitEscape rest (n := lowHalf c) (by rw [lowHalf]; omega)
  rw [hsecond] at hfirst
  rw [List.append_assoc]
  refine hfirst.trans ?_
  cases units? rest <;> rfl

/-- An escaped character reads as its units. -/
private theorem units?_escapeChar (ascii : Bool) (c : Char) :
    units? (escapeChar ascii c ++ rest) = prependUnits (charUnits ascii c) (units? rest) := by
  have hletter : ∀ {e d : Char}, escape? e = some d.toNat → d.toNat < 0x10000 →
      units? (['\\', e] ++ rest) = prependUnits (charUnits ascii d) (units? rest) := by
    intro e d he hd
    rw [charUnits_of_lt hd]
    exact units?_letter rest he
  -- the letters of `escapeChar` in its order, then numbers, then the character itself
  by_cases hquote : c = '"'
  · subst c
    exact hletter rfl (by decide)
  by_cases hslash : c = '\\'
  · subst c
    exact hletter rfl (by decide)
  by_cases hnewline : c = '\n'
  · subst c
    exact hletter rfl (by decide)
  by_cases hreturn : c = '\r'
  · subst c
    exact hletter rfl (by decide)
  by_cases htab : c = '\t'
  · subst c
    exact hletter rfl (by decide)
  by_cases hback : c = Char.ofNat 8
  · subst c
    exact hletter rfl (by decide)
  by_cases hfeed : c = Char.ofNat 12
  · subst c
    exact hletter rfl (by decide)
  rw [escapeChar, if_neg hquote, if_neg hslash, if_neg hnewline, if_neg hreturn, if_neg htab,
    if_neg hback, if_neg hfeed]
  by_cases hcontrol : c.toNat < 32
  · rw [if_pos hcontrol, charUnits_of_lt (by omega)]
    exact units?_unitEscape rest (by omega)
  rw [if_neg hcontrol]
  by_cases hascii : ascii ∧ 126 < c.toNat
  · rw [if_pos hascii]
    by_cases hlow : c.toNat < 0x10000
    · rw [if_pos hlow, charUnits_of_lt hlow]
      exact units?_unitEscape rest hlow
    · rw [if_neg hlow, charUnits, if_pos ⟨hascii.1, Nat.le_of_not_lt hlow⟩]
      exact units?_pair rest (Nat.le_of_not_lt hlow)
  · have hunits : charUnits ascii c = [c.toNat] := by
      rw [charUnits, if_neg]
      exact fun h => hascii ⟨h.1, by omega⟩
    rw [if_neg hascii, hunits]
    exact units?_plain rest hquote hslash hcontrol

end

/-- The code points between quotes read as their units, up to the closing quote. -/
theorem units?_escaped (ascii : Bool) (points : List CodePoint) (rest : List Char) :
    units? (points.flatMap (escapedPoint ascii) ++ '"' :: rest)
      = some (points.flatMap (pointUnits ascii), rest) := by
  induction points with
  | nil => rfl
  | cons p points ih =>
    have hpoint (rest : List Char) : units? (escapedPoint ascii p ++ rest)
        = prependUnits (pointUnits ascii p) (units? rest) := by
      cases p with
      | char c => exact units?_escapeChar rest ascii c
      | half k => exact units?_unitEscape rest (by omega)
    rw [List.flatMap_cons, List.append_assoc, hpoint, ih]
    rfl

/-! ## Joining -/

private theorem isHighUnit_iff {n : Nat} : isHighUnit n = true ↔ 0xD800 ≤ n ∧ n < 0xDC00 := by
  simp [isHighUnit]

private theorem isLowUnit_iff {n : Nat} : isLowUnit n = true ↔ 0xDC00 ≤ n ∧ n < 0xE000 := by
  simp [isLowUnit]

private theorem joinUnits_charUnits (ascii : Bool) (c : Char) (us : List Nat) :
    joinUnits none (charUnits ascii c ++ us) = .char c :: joinUnits none us := by
  have hbounds := toNat_bounds c
  rw [charUnits]
  split
  · rename_i hpair
    have hhigh : isHighUnit (highHalf c) = true := by
      rw [isHighUnit_iff, highHalf]
      omega
    have hlow : isLowUnit (lowHalf c) = true := by
      rw [isLowUnit_iff, lowHalf]
      omega
    have hvalue : 0x10000 + (highHalf c - 0xD800) * 1024 + (lowHalf c - 0xDC00) = c.toNat := by
      rw [highHalf, lowHalf]
      omega
    simp only [List.cons_append, List.nil_append]
    rw [joinUnits, if_pos hhigh, joinUnits, if_pos hlow, hvalue, Char.ofNat_toNat]
  · have hhigh : isHighUnit c.toNat = false := by
      rw [Bool.eq_false_iff, ne_eq, isHighUnit_iff]
      omega
    simp only [List.cons_append, List.nil_append]
    rw [joinUnits, if_neg (by simp [hhigh]), unitPoint, dif_neg (by omega), Char.ofNat_toNat]

private theorem unitPoint_half (k : Fin 0x800) : unitPoint (0xD800 + k.val) = .half k := by
  rw [unitPoint, dif_pos (by omega)]
  simp

/-- A first half that no second one follows is a half by itself. -/
private theorem joinUnits_some {high : Nat} {us : List Nat}
    (h : ∀ n, us.head? = some n → isLowUnit n = false) :
    joinUnits (some high) us = unitPoint high :: joinUnits none us := by
  cases us with
  | nil => rfl
  | cons n us =>
    have hlow : isLowUnit n = false := h n rfl
    by_cases hhigh : isHighUnit n = true
    · simp [joinUnits, hlow, hhigh]
    · simp [joinUnits, hlow, hhigh]

/-- What is written for a code point starts with no second half, unless that is what it is. -/
private theorem isLowUnit_head {ascii : Bool} {p : CodePoint} (hp : p.isSecond = false)
    (us : List Nat) :
    ∀ n, (pointUnits ascii p ++ us).head? = some n → isLowUnit n = false := by
  intro n hn
  rw [Bool.eq_false_iff, ne_eq, isLowUnit_iff]
  cases p with
  | char c =>
    have hbounds := toNat_bounds c
    rw [pointUnits, charUnits] at hn
    split at hn
    · rename_i hpair
      obtain rfl : highHalf c = n := Option.some.inj hn
      rw [highHalf]
      omega
    · obtain rfl : c.toNat = n := Option.some.inj hn
      omega
  | half k =>
    obtain rfl : 0xD800 + k.val = n := Option.some.inj hn
    simp only [CodePoint.isSecond, decide_eq_false_iff_not] at hp
    omega

/-- The units of code points among which halves stand apart are joined to these code points. -/
theorem joinUnits_units (ascii : Bool) {points : List CodePoint} {afterFirst : Bool}
    (h : CodePoint.apart afterFirst points = true) :
    joinUnits none (points.flatMap (pointUnits ascii)) = points := by
  induction points generalizing afterFirst with
  | nil => rfl
  | cons p points ih =>
    rw [CodePoint.apart, Bool.and_eq_true] at h
    rw [List.flatMap_cons]
    cases p with
    | char c => rw [pointUnits, joinUnits_charUnits, ih h.2]
    | half k =>
      rw [pointUnits, List.singleton_append, joinUnits]
      split
      · rename_i hfirst
        -- what follows is no second half, since the text keeps them apart
        rw [joinUnits_some, unitPoint_half, ih h.2]
        intro n hn
        cases points with
        | nil => cases hn
        | cons q rest =>
          rw [isHighUnit_iff] at hfirst
          have hq := h.2
          simp only [CodePoint.apart, CodePoint.isFirst, Bool.and_eq_true, Bool.not_eq_true',
            Bool.and_eq_false_iff, decide_eq_false_iff_not] at hq
          rw [List.flatMap_cons] at hn
          exact isLowUnit_head (hq.1.resolve_left fun hnot => hnot (by omega)) _ n hn
      · rw [unitPoint_half, ih h.2]

theorem looseText_units (ascii : Bool) (s : LooseText) :
    looseText (s.points.flatMap (pointUnits ascii)) = s := by
  simp [looseText, joinUnits_units ascii s.apart]

theorem shownText_units (ascii : Bool) (s : String) :
    shownText ((s.toList.map CodePoint.char).flatMap (pointUnits ascii)) = s := by
  have hloose : looseText ((s.toList.map CodePoint.char).flatMap (pointUnits ascii)) = .ofString s :=
    looseText_units ascii (.ofString s)
  rw [shownText, hloose, LooseText.shown_ofString]

end ToolBindings.Json
