import ToolBindings.Console.Style
import ToolBindings.Proofs.Text.Scan

/-!
# Styles of one word

A word of small letters names the style that another one names only if it is a short word: no word
but `red` itself has the normal form of `red` (`normal_ne_red`).
-/

namespace ToolBindings.Console.Style

variable {c : Char} {name : List Char}

/-! ## Small letters -/

theorem toNat_of_letter (h : 'a' ≤ c ∧ c ≤ 'z') : 97 ≤ c.toNat ∧ c.toNat ≤ 122 :=
  ⟨h.1, h.2⟩

theorem isSpace_of_letter (h : 'a' ≤ c ∧ c ≤ 'z') : Text.isSpace c = false := by
  have hrange := toNat_of_letter h
  simp only [Text.isSpace, Text.isAnyBlank, Text.inRanges, Text.blankRanges, List.any_cons,
    List.any_nil, Bool.or_false, Bool.or_eq_false_iff, Bool.and_eq_false_iff,
    decide_eq_false_iff_not]
  omega

theorem smallLetter_of_letter (h : 'a' ≤ c ∧ c ≤ 'z') : Text.smallLetter c = c := by
  have hrange := toNat_of_letter h
  have hnotCapital : ¬(c.val ≥ 'A'.val ∧ c.val ≤ 'Z'.val) := by
    rintro ⟨-, hhigh⟩
    have hle : c.toNat ≤ 90 := hhigh
    omega
  have hlower : c.toLower = c := dif_neg hnotCapital
  unfold Text.smallLetter
  rw [if_neg (by omega), if_neg (by omega), if_neg (by omega), hlower]

/-! ## Words of them -/

theorem trimBlanks_of_letters (h : ∀ c ∈ name, 'a' ≤ c ∧ c ≤ 'z') :
    Text.trimBlanks Text.isSpace name = name := by
  have hdrop (s : List Char) (hs : ∀ c ∈ s, 'a' ≤ c ∧ c ≤ 'z') : s.dropWhile Text.isSpace = s := by
    cases s with
    | nil => rfl
    | cons c rest =>
      rw [List.dropWhile_cons_of_neg]
      simp [isSpace_of_letter (hs c List.mem_cons_self)]
  rw [Text.trimBlanks, hdrop name h, hdrop _ fun c hc => h c (List.mem_reverse.1 hc),
    List.reverse_reverse]

theorem small_of_letters (h : ∀ c ∈ name, 'a' ≤ c ∧ c ≤ 'z') : small name = name := by
  have hid : name.map Text.smallLetter = name.map id :=
    List.map_congr_left fun c hc => smallLetter_of_letter (h c hc)
  rw [small, hid, List.map_id]

theorem words_of_letters (h : ∀ c ∈ name, 'a' ≤ c ∧ c ≤ 'z') (hne : name ≠ []) :
    words name = [name] := by
  have hid : (name.map fun c => if Text.isSpace c then ' ' else c) = name.map id := by
    refine List.map_congr_left fun c hc => ?_
    rw [isSpace_of_letter (h c hc)]
    rfl
  have hblank : ' ' ∉ name := fun hmem => absurd (h ' ' hmem) (by decide)
  rw [words, hid, List.map_id, Text.splitOn_of_not_mem hblank]
  simp [hne]

/-- The word for an attribute alone has the attribute as its normal form. -/
theorem toWords_attribute : ∀ x ∈ attributeNames,
    Text.joinWith " " (toWords ⟨[(x, true)], none, none, none⟩) ≠ "red" := by
  decide +kernel

theorem mem_attributeNames {word x : String} (h : attribute? word = some x) :
    x ∈ attributeNames := by
  have hshort : ∀ entry ∈ shortNames, entry.2 ∈ attributeNames := by decide
  unfold attribute? at h
  split at h
  · rename_i hname
    cases h
    exact List.contains_iff_mem.1 hname
  · obtain ⟨entry, hfound, rfl⟩ := Option.map_eq_some_iff.1 h
    exact hshort entry (List.mem_of_find?_eq_some hfound)

/-- One word defines nothing, or an attribute, or a colour of that name. -/
theorem read?_word (hsmall : small name = name) :
    read? ⟨[], none, none, none⟩ [name] = none ∨
      (∃ x ∈ attributeNames,
        read? ⟨[], none, none, none⟩ [name] = some ⟨[(x, true)], none, none, none⟩) ∨
      read? ⟨[], none, none, none⟩ [name] = some ⟨[], some (String.ofList name), none, none⟩ := by
  rw [read?, hsmall]
  split
  · exact Or.inl rfl
  · split
    · exact Or.inl rfl
    · split
      · exact Or.inl rfl
      · split
        · rename_i x hattribute
          exact Or.inr (Or.inl ⟨x, mem_attributeNames hattribute, rfl⟩)
        · split
          · exact Or.inr (Or.inr rfl)
          · exact Or.inl rfl

theorem normal_ne_red (h : ∀ c ∈ name, 'a' ≤ c ∧ c ≤ 'z') (hne : name ≠ [])
    (hred : name ≠ "red".toList) : normal name ≠ "red" := by
  have hred' : String.ofList name ≠ "red" := by
    intro heq
    rw [← heq, String.toList_ofList] at hred
    exact hred rfl
  have hsmall := small_of_letters h
  unfold normal
  rw [trimBlanks_of_letters h, words_of_letters h hne]
  simp only [hsmall]
  split
  · decide
  · rcases read?_word hsmall with hnone | ⟨x, hx, hattribute⟩ | hcolour
    · rw [hnone]
      exact hred'
    · rw [hattribute]
      exact toWords_attribute x hx
    · rw [hcolour]
      exact hred'

end ToolBindings.Console.Style
