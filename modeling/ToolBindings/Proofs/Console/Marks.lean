import ToolBindings.Console.Output

/-!
# Brackets and backslashes in plain text

Open brackets and backslashes are what markup is made of. Plain text that is shown has no more of
either than the text has that it comes from (`count_shown_le`): an emoji brings none.
-/

namespace ToolBindings.Console

/-- The characters that make markup. -/
def isMark (c : Char) : Bool := c == '[' || c == '\\'

variable {s : List Char} {a : Char}

/-- A text without marks holds none of them. -/
theorem count_of_unmarked (ha : isMark a = true) (hs : s.all (!isMark ·) = true) :
    s.count a = 0 := by
  refine List.count_eq_zero.2 fun hmem => ?_
  have hnot := List.all_eq_true.1 hs a hmem
  rw [ha] at hnot
  cases hnot

/-! ## Emoji -/

namespace Emoji

theorem unmarked_codes :
    (codes.all fun entry => entry.2.all fun n => !isMark (Char.ofNat n)) = true := by
  decide +kernel

theorem unmarked_listed {name glyph : List Char} (h : listed? name = some glyph) :
    glyph.all (!isMark ·) = true := by
  unfold listed? at h
  obtain ⟨⟨known, points⟩, hfound, rfl⟩ := Option.map_eq_some_iff.1 h
  rw [List.all_map]
  exact List.all_eq_true.1 unmarked_codes _ (List.mem_of_find?_eq_some hfound)

theorem unmarked_inTone {tone : Char} {glyph : List Char} (htone : isMark tone = false)
    (hglyph : glyph.all (!isMark ·) = true) : (inTone tone glyph).all (!isMark ·) = true := by
  cases glyph with
  | nil => rfl
  | cons c rest =>
    rw [List.all_cons, Bool.and_eq_true] at hglyph
    have hrest : (rest.dropWhile (· == Char.ofNat 0xFE0F)).all (!isMark ·) = true := by
      refine List.all_eq_true.2 fun d hd => List.all_eq_true.1 hglyph.2 d ?_
      exact (List.dropWhile_suffix _).subset hd
    unfold inTone
    rw [List.all_cons, List.all_cons, hglyph.1, hrest, htone]
    rfl

theorem unmarked_find {name glyph : List Char} (h : find? name = some glyph) :
    glyph.all (!isMark ·) = true := by
  unfold find? at h
  rcases Option.or_eq_some_iff.1 h with hlisted | ⟨-, htoned⟩
  · exact unmarked_listed hlisted
  · unfold toned? at htoned
    obtain ⟨⟨ending, tone⟩, htone, hfound⟩ := List.exists_of_findSome?_eq_some htoned
    have htones : ∀ entry ∈ tones, isMark (Char.ofNat entry.2) = false := by decide
    obtain ⟨base, -, hbase⟩ := Option.bind_eq_some_iff.1 hfound
    split at hbase
    · obtain ⟨glyph', hlisted, rfl⟩ := Option.map_eq_some_iff.1 hbase
      exact unmarked_inTone (htones _ htone) (unmarked_listed hlisted)
    · cases hbase

theorem unmarked_splitForm (name : List Char) : (splitForm name).2.all (!isMark ·) = true := by
  unfold splitForm
  simp only
  cases hfound : forms.findSome? fun x => (dropEnd? x.1.toList name).map fun base =>
    (base, [Char.ofNat x.2]) with
  | none => rfl
  | some found =>
    obtain ⟨⟨ending, form⟩, hform, hdrop⟩ := List.exists_of_findSome?_eq_some hfound
    obtain ⟨base, -, rfl⟩ := Option.map_eq_some_iff.1 hdrop
    have hforms : ∀ entry ∈ forms, [Char.ofNat entry.2].all (!isMark ·) = true := by decide
    exact hforms _ hform

/-- A name between colons stays, or it gives way to an emoji. -/
theorem count_replacement_le (ha : isMark a = true) (name : List Char) :
    (replacement name).count a ≤ (':' :: name ++ [':']).count a := by
  unfold replacement
  simp only
  split
  · rename_i emoji hfound
    rw [List.count_append, count_of_unmarked ha (unmarked_find hfound),
      count_of_unmarked ha (unmarked_splitForm name)]
    exact Nat.zero_le _
  · exact Nat.le_refl _

theorem count_replace_le (ha : isMark a = true) (s : List Char) :
    (replace s).count a ≤ s.count a := by
  fun_induction replace s with
  | case1 => exact Nat.le_refl _
  | case2 rest after hafter ih =>
    have hsplit : ':' :: rest = (':' :: rest.takeWhile isNameChar ++ [':']) ++ after := by
      have hrest := List.takeWhile_append_dropWhile (p := isNameChar) (l := rest)
      rw [hafter] at hrest
      simpa using hrest.symm
    have hname := count_replacement_le ha (rest.takeWhile isNameChar)
    rw [hsplit, List.count_append, List.count_append]
    omega
  | case3 rest hafter ih =>
    rw [List.count_cons, List.count_cons]
    omega
  | case4 c rest hc ih =>
    rw [List.count_cons, List.count_cons]
    omega

end Emoji

/-! ## Plain text -/

namespace Markup

theorem count_dropBackslashes_le (s : List Char) : (dropBackslashes s).count a ≤ s.count a := by
  fun_induction dropBackslashes s with
  | case1 rest ih =>
    rw [List.count_cons, List.count_cons, List.count_cons]
    omega
  | case2 c rest hnot ih =>
    rw [List.count_cons, List.count_cons]
    omega
  | case3 => exact Nat.le_refl _

theorem count_shown_le (ha : isMark a = true) (s : List Char) : (shown s).count a ≤ s.count a := by
  calc (shown s).count a
    _ ≤ (Emoji.replace (dropBackslashes s)).count a := List.filter_sublist.count_le a
    _ ≤ (dropBackslashes s).count a := Emoji.count_replace_le ha _
    _ ≤ s.count a := count_dropBackslashes_le s

end Markup

end ToolBindings.Console
