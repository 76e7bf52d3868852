import Mathlib.Data.List.Nodup
import ToolBindings.Proofs.Data.Entries
import ToolBindings.Proofs.Data.Sorted

/-!
# Sorted data is a normal form

Data that differs in the order of keys alone becomes the same data when it is sorted
(`sorted_of_reordered`), and sorted data stays as it is (`sorted_of_keysSorted`). Both rest on the
same fact about lists: two of them that ascend and have the same things of each key are equal.
-/

namespace ToolBindings.Text

section

variable {α : Type} {key : α → String}

/-- A list that ascends begins with the least key. -/
private theorem head_le {a : α} {l : List α} {b : α}
    (h : (a :: l).Pairwise fun a b => key a ≤ key b) (hb : b ∈ a :: l) : key a ≤ key b := by
  rcases List.mem_cons.1 hb with rfl | hb
  · exact String.le_refl _
  · exact List.rel_of_pairwise_cons h hb

/-- Lists that have the same things of each key have the same things. -/
private theorem mem_iff_of_filter {l l' : List α}
    (halike : ∀ k, l.filter (key · == k) = l'.filter (key · == k)) (a : α) : a ∈ l ↔ a ∈ l' := by
  have hmem := congrArg (a ∈ ·) (halike (key a))
  simpa using hmem

/-- Two ascending lists that have the same things of each key, in the same order, are equal. -/
theorem eq_of_ascending {l l' : List α} (h : l.Pairwise fun a b => key a ≤ key b)
    (h' : l'.Pairwise fun a b => key a ≤ key b)
    (halike : ∀ k, l.filter (key · == k) = l'.filter (key · == k)) : l = l' := by
  have hmem := mem_iff_of_filter halike
  induction l generalizing l' with
  | nil =>
    cases l' with
    | nil => rfl
    | cons b l' => exact absurd ((hmem b).2 List.mem_cons_self) (by simp)
  | cons a l ih =>
    cases l' with
    | nil => exact absurd ((hmem a).1 List.mem_cons_self) (by simp)
    | cons b l' =>
      have hkeys : key a = key b :=
        String.le_antisymm (head_le h ((hmem b).2 List.mem_cons_self))
          (head_le h' ((hmem a).1 List.mem_cons_self))
      -- the heads are the first things of their key
      have hheads := halike (key a)
      rw [List.filter_cons_of_pos (by simp), List.filter_cons_of_pos (by simp [hkeys])] at hheads
      obtain ⟨rfl, -⟩ := List.cons.inj hheads
      have htails : ∀ k, l.filter (key · == k) = l'.filter (key · == k) := by
        intro k
        have hk := halike k
        rw [List.filter_cons, List.filter_cons] at hk
        split at hk
        · exact (List.cons.inj hk).2
        · exact hk
      rw [ih h.of_cons h'.of_cons htails (mem_iff_of_filter htails)]

/-- Sorting forgets everything but the order among things of one key. -/
theorem sortedBy_eq_of_filter {l l' : List α}
    (halike : ∀ k, l.filter (key · == k) = l'.filter (key · == k)) :
    sortedBy key l = sortedBy key l' := by
  refine eq_of_ascending (pairwise_sortedBy key l) (pairwise_sortedBy key l') fun k => ?_
  rw [filter_sortedBy, filter_sortedBy, halike]

/-- Where no key comes twice the order of a list is forgotten. -/
theorem sortedBy_eq_of_perm {l l' : List α} (hperm : l.Perm l') (hkeys : (l.map key).Nodup) :
    sortedBy key l = sortedBy key l' := by
  have hsame : (sortedBy key l).Perm (sortedBy key l') :=
    ((perm_sortedBy key l).trans hperm).trans (perm_sortedBy key l').symm
  refine List.Perm.eq_of_pairwise ?_ (pairwise_sortedBy key l) (pairwise_sortedBy key l') hsame
  intro a b ha hb hab hba
  rw [mem_sortedBy] at ha hb
  exact List.inj_on_of_nodup_map hkeys ha (hperm.mem_iff.2 hb) (String.le_antisymm hab hba)

/-- Pairs that differ leave one order alone. -/
theorem sortedByPair_eq_of_perm {pairKey : α → String × String} {l l' : List α} (hperm : l'.Perm l)
    (hsorted : l'.Pairwise fun a b => lePair (pairKey a) (pairKey b) = true)
    (hkeys : (l.map pairKey).Nodup) : sortedByPair pairKey l = l' := by
  refine List.Perm.eq_of_pairwise ?_ (pairwise_sortedByPair pairKey l) hsorted
    ((perm_sortedByPair pairKey l).trans hperm.symm)
  intro a b ha hb hab hba
  rw [mem_sortedByPair] at ha
  exact List.inj_on_of_nodup_map hkeys ha (hperm.mem_iff.1 hb) (lePair_antisymm hab hba)

end

end ToolBindings.Text

namespace ToolBindings

/-! ## Look-up -/

/-- The value of a key does not depend on the order of keys. -/
theorem Entries.get?_of_perm {α : Type} {es fs : Entries String α} (hperm : es.Perm fs)
    (hkeys : (keys es).Nodup) (key : String) : get? key es = get? key fs := by
  have hsame : (keys es).Perm (keys fs) := hperm.map _
  cases h : get? key es with
  | none =>
    rw [get?_eq_none] at h
    exact (get?_eq_none.2 fun hmem => h (hsame.mem_iff.2 hmem)).symm
  | some a =>
    have ha := hperm.mem_iff.1 (mem_of_get? h)
    cases h' : get? key fs with
    | none => exact absurd (List.mem_map_of_mem ha) (get?_eq_none.1 h')
    | some b =>
      have hpair := List.inj_on_of_nodup_map (hsame.nodup_iff.1 hkeys) ha (mem_of_get? h') rfl
      rw [(Prod.mk.inj hpair).2]

namespace Data

theorem ReorderedFields.keys_eq {fields fields' : List (String × Json)}
    (h : ReorderedFields fields fields') : Entries.keys fields' = Entries.keys fields := by
  induction fields generalizing fields' with
  | nil => rw [show fields' = [] from h]
  | cons f fields ih =>
    obtain ⟨value', rest', rfl, -, hrest⟩ := h
    rw [Entries.keys_cons, ih hrest]
    rfl

theorem ReorderedFields.get? {fields fields' : List (String × Json)}
    (h : ReorderedFields fields fields') (key : String) :
    Option.Rel Reordered (Entries.get? key fields) (Entries.get? key fields') := by
  induction fields generalizing fields' with
  | nil =>
    rw [show fields' = [] from h]
    exact .none
  | cons f fields ih =>
    obtain ⟨k, value⟩ := f
    obtain ⟨value', rest', rfl, hvalue, hrest⟩ := h
    rw [Entries.get?_cons, Entries.get?_cons]
    split
    · exact .some hvalue
    · exact ih hrest

/-- The values of a key are the same but for the order of keys. -/
theorem Reordered.get? {fields fields' : List (String × Json)}
    (h : Reordered (.map fields) (.map fields')) (hkeys : (Entries.keys fields).Nodup)
    (key : String) : Option.Rel Reordered (Entries.get? key fields) (Entries.get? key fields') := by
  obtain ⟨between, _, hmap, hfields, hperm⟩ := h
  cases hmap
  rw [← hfields.keys_eq] at hkeys
  rw [← Entries.get?_of_perm hperm hkeys]
  exact hfields.get? key

/-- A text stays under a key that has one. -/
theorem Reordered.text?_eq {fields fields' : List (String × Json)}
    (h : Reordered (.map fields) (.map fields')) (hkeys : (Entries.keys fields).Nodup)
    (key : String) :
    (Entries.get? key fields).bind text? = (Entries.get? key fields').bind text? := by
  have hrel := h.get? hkeys key
  generalize Entries.get? key fields = value, Entries.get? key fields' = value' at hrel ⊢
  cases hrel with
  | none => rfl
  | @some v w hvalue =>
    cases v with
    | list items =>
      obtain ⟨items', rfl, -⟩ := hvalue
      rfl
    | map fields =>
      obtain ⟨-, fields', rfl, -⟩ := hvalue
      rfl
    | _ => rw [show w = _ from hvalue]

/-- Under a key that has a map there is one that is the same but for the order of keys. -/
theorem Reordered.map? {fields fields' : List (String × Json)}
    (h : Reordered (.map fields) (.map fields')) (hkeys : (Entries.keys fields).Nodup)
    (key : String) :
    Option.Rel (fun inner inner' => Reordered (.map inner) (.map inner'))
      ((Entries.get? key fields).bind Data.map?) ((Entries.get? key fields').bind Data.map?) := by
  have hrel := h.get? hkeys key
  generalize Entries.get? key fields = value, Entries.get? key fields' = value' at hrel ⊢
  cases hrel with
  | none => exact .none
  | @some v w hvalue =>
    cases v with
    | list items =>
      obtain ⟨items', rfl, -⟩ := hvalue
      exact .none
    | map inner =>
      obtain ⟨between, inner', rfl, hinner⟩ := hvalue
      exact .some ⟨between, inner', rfl, hinner⟩
    | _ =>
      rw [show w = _ from hvalue]
      exact .none

/-! ## Sorting -/

mutual

/-- Data that differs in the order of keys alone is sorted to the same data. -/
theorem sorted_of_reordered : ∀ {v w : Json}, Reordered v w → v.distinctKeys = true →
    sorted v = sorted w
  | .null, _, h, _ | .bool _, _, h, _ | .int _, _, h, _ | .float _, _, h, _ | .text _, _, h, _ =>
    congrArg sorted (Eq.symm h)
  | .list items, _, h, hkeys => by
    obtain ⟨items', rfl, hitems⟩ := h
    rw [sorted, sorted, sortedList_of_reordered hitems hkeys]
  | .map fields, _, h, hkeys => by
    obtain ⟨between, fields', rfl, hfields, hperm⟩ := h
    rw [distinctKeys_map] at hkeys
    have hsame := sortedFields_of_reordered hfields hkeys.2
    have hpairs : (sortedFields fields).Perm (sortedFields fields') := by
      rw [hsame, sortedFields_eq, sortedFields_eq]
      exact hperm.map _
    have hnodup : ((sortedFields fields).map (·.1)).Nodup := by
      rw [show (sortedFields fields).map (·.1) = _ from keys_sortedFields fields]
      exact hkeys.1
    rw [sorted, sorted, Text.sortedBy_eq_of_perm hpairs hnodup]

theorem sortedList_of_reordered : ∀ {items items' : List Json}, ReorderedList items items' →
    distinctKeysList items = true → sortedList items = sortedList items'
  | [], _, h, _ => congrArg sortedList (Eq.symm h)
  | item :: rest, _, h, hkeys => by
    obtain ⟨item', rest', rfl, hitem, hrest⟩ := h
    rw [distinctKeysList, Bool.and_eq_true] at hkeys
    rw [sortedList, sortedList, sorted_of_reordered hitem hkeys.1,
      sortedList_of_reordered hrest hkeys.2]

theorem sortedFields_of_reordered : ∀ {fields fields' : List (String × Json)},
    ReorderedFields fields fields' → distinctKeysFields fields = true →
    sortedFields fields = sortedFields fields'
  | [], _, h, _ => congrArg sortedFields (Eq.symm h)
  | (key, value) :: rest, _, h, hkeys => by
    obtain ⟨value', rest', rfl, hvalue, hrest⟩ := h
    rw [distinctKeysFields, Bool.and_eq_true] at hkeys
    rw [sortedFields, sortedFields, sorted_of_reordered hvalue hkeys.1,
      sortedFields_of_reordered hrest hkeys.2]

end

mutual

/-- Data in ascending key order stays as it is. -/
theorem sorted_of_keysSorted : ∀ {v : Json}, keysSorted v → sorted v = v
  | .null, _ | .bool _, _ | .int _, _ | .float _, _ | .text _, _ => rfl
  | .list items, h => congrArg Data.list (sortedList_of_keysSorted h)
  | .map fields, h => by
    rw [sorted, sortedFields_of_keysSorted h.2, Text.sortedBy_of_pairwise h.1]

theorem sortedList_of_keysSorted : ∀ {items : List Json}, keysSortedList items →
    sortedList items = items
  | [], _ => rfl
  | item :: rest, h => by
    rw [sortedList, sorted_of_keysSorted h.1, sortedList_of_keysSorted h.2]

theorem sortedFields_of_keysSorted : ∀ {fields : List (String × Json)}, keysSortedFields fields →
    sortedFields fields = fields
  | [], _ => rfl
  | (key, value) :: rest, h => by
    rw [sortedFields, sorted_of_keysSorted h.1, sortedFields_of_keysSorted h.2]

end

end Data
end ToolBindings
