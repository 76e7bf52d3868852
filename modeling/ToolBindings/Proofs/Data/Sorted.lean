import ToolBindings.Data.Sorted
import ToolBindings.Proofs.Data.Tokens

/-!
# Sorting

The orders of texts and of pairs of texts are linear, so that sorting by them puts equal things in
the order in which they came and everything else in its place:

* `filter_sortedBy`: what is alike keeps its order;
* `filter_sortedByPair_of_pairwise`: a part that is in order already comes out as it went in;
* `map_sortedByPair_of_perm`: there is only one order of pairs, however they are sorted.
-/

namespace ToolBindings

/-! ## Sorting by insertion -/

section

variable {α : Type} {r : α → α → Bool}

/-- A thing is put behind all that it may not come before, if what comes next may come after it. -/
theorem insertBy_append {a : α} {before after : List α} (hbefore : ∀ b ∈ before, r a b = false)
    (hafter : ∀ b ∈ after, r a b = true) : insertBy r a (before ++ after) = before ++ a :: after := by
  induction before with
  | nil =>
    cases after with
    | nil => rfl
    | cons b after => exact if_pos (hafter b List.mem_cons_self)
  | cons b before ih =>
    rw [List.cons_append, insertBy, if_neg (by simp [hbefore b List.mem_cons_self]),
      ih fun b hb => hbefore b (List.mem_cons_of_mem _ hb)]
    rfl

theorem perm_insertBy (r : α → α → Bool) (a : α) (l : List α) : (insertBy r a l).Perm (a :: l) := by
  induction l with
  | nil => exact .refl _
  | cons b l ih =>
    rw [insertBy]
    split
    · exact .refl _
    · exact (ih.cons b).trans (.swap a b l)

theorem perm_sortBy (r : α → α → Bool) (l : List α) : (sortBy r l).Perm l := by
  induction l with
  | nil => exact .refl _
  | cons a l ih => exact (perm_insertBy r a _).trans (ih.cons a)

/-- Sorting commutes with a change that leaves the order. -/
theorem map_sortBy {β : Type} (f : β → α) (l : List β) :
    (sortBy (fun b c => r (f b) (f c)) l).map f = sortBy r (l.map f) := by
  have hinsert (b : β) (l : List β) :
      (insertBy (fun b c => r (f b) (f c)) b l).map f = insertBy r (f b) (l.map f) := by
    induction l with
    | nil => rfl
    | cons c l ih =>
      rw [insertBy, List.map_cons, insertBy, ← ih]
      split <;> rfl
  induction l with
  | nil => rfl
  | cons b l ih => rw [sortBy, hinsert, ih, List.map_cons, sortBy]

/-- Sorting by insertion is sorting. -/
theorem sortBy_eq_mergeSort (htrans : ∀ a b c, r a b = true → r b c = true → r a c = true)
    (htotal : ∀ a b, (r a b || r b a) = true) (l : List α) : sortBy r l = l.mergeSort r := by
  induction l with
  | nil => exact List.mergeSort_nil.symm
  | cons a l ih =>
    -- the first thing stands in the sorted list behind those that it may not come before
    obtain ⟨before, after, hall, hrest, hbefore⟩ := List.mergeSort_cons htrans htotal a l
    have hsorted := List.pairwise_mergeSort htrans htotal (a :: l)
    rw [hall] at hsorted
    have hafter := (List.pairwise_cons.1 (List.pairwise_append.1 hsorted).2.1).1
    rw [sortBy, ih, hall, hrest]
    exact insertBy_append (fun b hb => by simpa using hbefore b hb) hafter

theorem pairwise_sortBy (htrans : ∀ a b c, r a b = true → r b c = true → r a c = true)
    (htotal : ∀ a b, (r a b || r b a) = true) (l : List α) :
    (sortBy r l).Pairwise fun a b => r a b = true := by
  rw [sortBy_eq_mergeSort htrans htotal]
  exact List.pairwise_mergeSort htrans htotal l

/-- What is in order already is left as it is. -/
theorem sortBy_of_pairwise {l : List α} (h : l.Pairwise fun a b => r a b = true) :
    sortBy r l = l := by
  induction l with
  | nil => rfl
  | cons a l ih =>
    obtain ⟨ha, hl⟩ := List.pairwise_cons.1 h
    rw [sortBy, ih hl]
    exact insertBy_append (List.forall_mem_nil _) ha

end

namespace Text

/-! ## Orders -/

theorem le_iff {a b : String} : le a b = true ↔ a ≤ b := by
  rw [le, Bool.not_eq_true', decide_eq_false_iff_not, String.not_lt]

theorem le_refl (a : String) : le a a = true := le_iff.2 (String.le_refl a)

theorem le_trans {a b c : String} (hab : le a b = true) (hbc : le b c = true) : le a c = true :=
  le_iff.2 (String.le_trans (le_iff.1 hab) (le_iff.1 hbc))

theorem le_total (a b : String) : (le a b || le b a) = true := by
  rw [Bool.or_eq_true, le_iff, le_iff]
  exact String.le_total a b

theorem lePair_iff {a b : String × String} :
    lePair a b = true ↔ a.1 < b.1 ∨ a.1 = b.1 ∧ a.2 ≤ b.2 := by
  simp [lePair, le_iff]

theorem lePair_trans {a b c : String × String} (hab : lePair a b = true)
    (hbc : lePair b c = true) : lePair a c = true := by
  rw [lePair_iff] at *
  grind

theorem lePair_total (a b : String × String) : (lePair a b || lePair b a) = true := by
  rw [Bool.or_eq_true, lePair_iff, lePair_iff]
  grind

theorem lePair_antisymm {a b : String × String} (hab : lePair a b = true)
    (hba : lePair b a = true) : a = b := by
  rw [lePair_iff] at *
  ext1 <;> grind

/-! ## Stability -/

section

variable {α : Type}

/-- The given things in the order of a text that belongs to each, those of one text in the order in
which they were given. -/
structure StablySorted (key : α → String) (given ordered : List α) : Prop where
  perm : ordered.Perm given
  ascending : ordered.Pairwise fun a b => key a ≤ key b
  stable : ∀ k, ordered.filter (key · == k) = given.filter (key · == k)

/-- The order of things by a text that belongs to each. -/
private theorem le_on (key : α → String) :
    (∀ a b c, le (key a) (key b) = true → le (key b) (key c) = true → le (key a) (key c) = true) ∧
      ∀ a b, (le (key a) (key b) || le (key b) (key a)) = true :=
  ⟨fun _ _ _ => le_trans, fun _ _ => le_total _ _⟩

/-- The order of things by a pair of texts that belongs to each. -/
private theorem lePair_on (key : α → String × String) :
    (∀ a b c, lePair (key a) (key b) = true → lePair (key b) (key c) = true →
      lePair (key a) (key c) = true) ∧
      ∀ a b, (lePair (key a) (key b) || lePair (key b) (key a)) = true :=
  ⟨fun _ _ _ => lePair_trans, fun _ _ => lePair_total _ _⟩

/-- A part of a list that is in order already comes out of a sort as it went in. -/
private theorem filter_sortBy {r : α → α → Bool}
    (htrans : ∀ a b c, r a b = true → r b c = true → r a c = true)
    (htotal : ∀ a b, (r a b || r b a) = true) {p : α → Bool} {l : List α}
    (h : (l.filter p).Pairwise fun a b => r a b = true) :
    (sortBy r l).filter p = l.filter p := by
  rw [sortBy_eq_mergeSort htrans htotal]
  have hsub : (l.filter p).Sublist (l.mergeSort r) :=
    List.sublist_mergeSort htrans htotal h List.filter_sublist
  have hkept : (l.filter p).Sublist ((l.mergeSort r).filter p) := by
    have hboth := hsub.filter p
    simpa using hboth
  have hlength := ((List.mergeSort_perm l r).filter p).length_eq
  exact (hkept.eq_of_length hlength.symm).symm

variable (key : α → String) (pairKey : α → String × String) (l : List α)

theorem perm_sortedBy : (sortedBy key l).Perm l := perm_sortBy _ l

theorem perm_sortedByPair : (sortedByPair pairKey l).Perm l := perm_sortBy _ l

@[simp] theorem mem_sortedBy {a : α} : a ∈ sortedBy key l ↔ a ∈ l := (perm_sortedBy key l).mem_iff

@[simp] theorem mem_sortedByPair {a : α} : a ∈ sortedByPair pairKey l ↔ a ∈ l :=
  (perm_sortedByPair pairKey l).mem_iff

theorem pairwise_sortedBy : (sortedBy key l).Pairwise fun a b => key a ≤ key b := by
  have h := pairwise_sortBy (le_on key).1 (le_on key).2 l
  exact h.imp le_iff.1

theorem pairwise_sortedByPair :
    (sortedByPair pairKey l).Pairwise fun a b => lePair (pairKey a) (pairKey b) = true :=
  pairwise_sortBy (lePair_on pairKey).1 (lePair_on pairKey).2 l

/-- Things of one key keep their order. -/
theorem filter_sortedBy (k : String) :
    (sortedBy key l).filter (key · == k) = l.filter (key · == k) := by
  have halike : (l.filter (key · == k)).Pairwise fun a b => le (key a) (key b) = true := by
    rw [List.pairwise_filter]
    refine List.pairwise_of_forall fun a b ha hb => ?_
    rw [eq_of_beq ha, eq_of_beq hb]
    exact le_refl k
  exact filter_sortBy (le_on key).1 (le_on key).2 halike

theorem stablySorted_sortedBy : StablySorted key l (sortedBy key l) :=
  ⟨perm_sortedBy key l, pairwise_sortedBy key l, filter_sortedBy key l⟩

/-- Sorting commutes with a change that leaves the keys. -/
theorem map_sortedBy {β : Type} (f : β → α) (items : List β) :
    (sortedBy (fun b => key (f b)) items).map f = sortedBy key (items.map f) :=
  map_sortBy (r := fun a b => le (key a) (key b)) f items

theorem map_sortedByPair {β : Type} (f : β → α) (items : List β) :
    (sortedByPair (fun b => pairKey (f b)) items).map f = sortedByPair pairKey (items.map f) :=
  map_sortBy (r := fun a b => lePair (pairKey a) (pairKey b)) f items

variable {key pairKey l}

theorem sortedBy_of_pairwise (h : l.Pairwise fun a b => key a ≤ key b) : sortedBy key l = l :=
  sortBy_of_pairwise (h.imp le_iff.2)

/-- A part that is in order already comes out as it went in. -/
theorem filter_sortedByPair_of_pairwise {p : α → Bool}
    (h : (l.filter p).Pairwise fun a b => lePair (pairKey a) (pairKey b) = true) :
    (sortedByPair pairKey l).filter p = l.filter p :=
  filter_sortBy (lePair_on pairKey).1 (lePair_on pairKey).2 h

/-- Where the pairs in order are known, they are the pairs of the sorted things. -/
theorem map_sortedByPair_of_perm {ps : List (String × String)} (hperm : ps.Perm (l.map pairKey))
    (hps : ps.Pairwise fun a b => lePair a b = true) : (sortedByPair pairKey l).map pairKey = ps := by
  have hsorted : ((sortedByPair pairKey l).map pairKey).Pairwise fun a b => lePair a b = true :=
    List.pairwise_map.2 (pairwise_sortedByPair pairKey l)
  exact List.Perm.eq_of_pairwise (fun _ _ _ _ => lePair_antisymm) hsorted hps
    (((perm_sortedByPair pairKey l).map pairKey).trans hperm.symm)

end

end Text

/-! ## Data sorted by key -/

namespace Data

mutual

/-- Every map in the data is in ascending key order. -/
def keysSorted : Json → Prop
  | .list items => keysSortedList items
  | .map fields => fields.Pairwise (fun f g => f.1 ≤ g.1) ∧ keysSortedFields fields
  | _ => True

/-- Element by element. -/
def keysSortedList : List Json → Prop
  | [] => True
  | item :: rest => keysSorted item ∧ keysSortedList rest

/-- Field by field. -/
def keysSortedFields : List (String × Json) → Prop
  | [] => True
  | (_, value) :: rest => keysSorted value ∧ keysSortedFields rest

end

mutual

/-- The same data but for the order of keys: the second value has the items of every list in their
order, and the fields of every map in some order. -/
def Reordered : Json → Json → Prop
  | .list items, w => ∃ items', w = .list items' ∧ ReorderedList items items'
  | .map fields, w =>
    ∃ fields' fields'', w = .map fields'' ∧ ReorderedFields fields fields' ∧ fields'.Perm fields''
  | v, w => w = v

/-- Element by element. -/
def ReorderedList : List Json → List Json → Prop
  | [], ws => ws = []
  | item :: rest, ws => ∃ item' rest', ws = item' :: rest' ∧ Reordered item item' ∧
    ReorderedList rest rest'

/-- Field by field. -/
def ReorderedFields : List (String × Json) → List (String × Json) → Prop
  | [], ws => ws = []
  | (key, value) :: rest, ws => ∃ value' rest', ws = (key, value') :: rest' ∧
    Reordered value value' ∧ ReorderedFields rest rest'

end

theorem sortedFields_eq (fields : List (String × Json)) :
    sortedFields fields = fields.map fun f => (f.1, sorted f.2) := by
  induction fields with
  | nil => rfl
  | cons f fields ih => rw [sortedFields, ih, List.map_cons]

@[simp] theorem keys_sortedFields (fields : List (String × Json)) :
    Entries.keys (sortedFields fields) = Entries.keys fields := by
  rw [sortedFields_eq, Entries.keys, List.map_map]
  rfl

theorem perm_keys_sorted (fields : List (String × Json)) :
    (Entries.keys (Text.sortedBy (·.1) (sortedFields fields))).Perm (Entries.keys fields) := by
  have hperm := (Text.perm_sortedBy (·.1) (sortedFields fields)).map (·.1)
  have hkeys : (sortedFields fields).map (·.1) = Entries.keys fields := keys_sortedFields fields
  rwa [hkeys] at hperm

theorem keysSortedFields_iff {fields : List (String × Json)} :
    keysSortedFields fields ↔ ∀ f ∈ fields, keysSorted f.2 := by
  induction fields with
  | nil => simp [keysSortedFields]
  | cons f fields ih => simp [keysSortedFields, ih]

mutual

/-- Sorted data is in ascending key order at every level. -/
theorem keysSorted_sorted : ∀ v : Json, keysSorted (sorted v)
  | .null => trivial
  | .bool _ => trivial
  | .int _ => trivial
  | .float _ => trivial
  | .text _ => trivial
  | .list items => keysSortedList_sorted items
  | .map fields => by
    rw [sorted, keysSorted, keysSortedFields_iff]
    refine ⟨Text.pairwise_sortedBy _ _, ?_⟩
    intro f hf
    rw [Text.mem_sortedBy] at hf
    exact keysSortedFields_iff.1 (keysSortedFields_sorted fields) f hf

theorem keysSortedList_sorted : ∀ items : List Json, keysSortedList (sortedList items)
  | [] => trivial
  | item :: rest => ⟨keysSorted_sorted item, keysSortedList_sorted rest⟩

theorem keysSortedFields_sorted :
    ∀ fields : List (String × Json), keysSortedFields (sortedFields fields)
  | [] => trivial
  | (_, value) :: rest => ⟨keysSorted_sorted value, keysSortedFields_sorted rest⟩

end

mutual

/-- Sorting changes nothing but the order of keys. -/
theorem reordered_sorted : ∀ v : Json, Reordered v (sorted v)
  | .null => rfl
  | .bool _ => rfl
  | .int _ => rfl
  | .float _ => rfl
  | .text _ => rfl
  | .list items => ⟨sortedList items, rfl, reorderedList_sorted items⟩
  | .map fields => by
    have hperm := Text.perm_sortedBy (·.1) (sortedFields fields)
    exact ⟨_, _, rfl, reorderedFields_sorted fields, hperm.symm⟩

theorem reorderedList_sorted : ∀ items : List Json, ReorderedList items (sortedList items)
  | [] => rfl
  | item :: rest =>
    ⟨sorted item, sortedList rest, rfl, reordered_sorted item, reorderedList_sorted rest⟩

theorem reorderedFields_sorted :
    ∀ fields : List (String × Json), ReorderedFields fields (sortedFields fields)
  | [] => rfl
  | (_, value) :: rest =>
    ⟨sorted value, sortedFields rest, rfl, reordered_sorted value, reorderedFields_sorted rest⟩

end

mutual

/-- Sorting makes no key come twice. -/
theorem distinctKeys_sorted : ∀ v : Json, v.distinctKeys = true → (sorted v).distinctKeys = true
  | .null, _ => rfl
  | .bool _, _ => rfl
  | .int _, _ => rfl
  | .float _, _ => rfl
  | .text _, _ => rfl
  | .list items, h => distinctKeysList_sorted items h
  | .map fields, h => by
    rw [distinctKeys_map] at h
    rw [sorted, distinctKeys_map, distinctKeysFields_iff]
    refine ⟨(perm_keys_sorted fields).nodup_iff.2 h.1, ?_⟩
    intro f hf
    rw [Text.mem_sortedBy] at hf
    exact distinctKeysFields_iff.1 (distinctKeysFields_sorted fields h.2) f hf

theorem distinctKeysList_sorted : ∀ items : List Json, distinctKeysList items = true →
    distinctKeysList (sortedList items) = true
  | [], _ => rfl
  | item :: rest, h => by
    rw [distinctKeysList, Bool.and_eq_true] at h
    rw [sortedList, distinctKeysList, distinctKeys_sorted item h.1,
      distinctKeysList_sorted rest h.2]
    rfl

theorem distinctKeysFields_sorted : ∀ fields : List (String × Json),
    distinctKeysFields fields = true → distinctKeysFields (sortedFields fields) = true
  | [], _ => rfl
  | (_, value) :: rest, h => by
    rw [distinctKeysFields, Bool.and_eq_true] at h
    rw [sortedFields, distinctKeysFields, distinctKeys_sorted value h.1,
      distinctKeysFields_sorted rest h.2]
    rfl

end

end Data
end ToolBindings
