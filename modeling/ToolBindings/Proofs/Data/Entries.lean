import ToolBindings.Data.Entries

/-!
# Look-up and distinct keys

What `put` changes and what it leaves, and that a list with distinct keys is taken over as it is.
-/

namespace ToolBindings.Entries

variable {κ α : Type}

variable [DecidableEq κ]

/-! ## Keys -/

theorem putAll_of_nodup {es more : Entries κ α} (h : (keys (es ++ more)).Nodup) :
    putAll es more = es ++ more := by
  induction more generalizing es with
  | nil => simp [putAll]
  | cons e more ih =>
    obtain ⟨key, value⟩ := e
    have hnew : key ∉ keys es := by
      rw [keys_append, keys_cons, List.nodup_append] at h
      intro hmem
      exact h.2.2 key hmem key List.mem_cons_self rfl
    have hmove : es ++ (key, value) :: more = (es ++ [(key, value)]) ++ more := by simp
    show putAll (put key value es) more = _
    rw [put_of_not_mem value hnew, hmove]
    rw [hmove] at h
    exact ih h

theorem mem_keys_put {key k : κ} {value : α} {es : Entries κ α} :
    k ∈ keys (put key value es) ↔ k = key ∨ k ∈ keys es := by
  by_cases hmem : key ∈ keys es
  · rw [keys_put_of_mem value hmem]
    constructor
    · exact Or.inr
    · rintro (rfl | hk)
      · exact hmem
      · exact hk
  · rw [put_of_not_mem value hmem, keys_append, List.mem_append, or_comm]
    simp

theorem mem_of_mem_put {key : κ} {value : α} {es : Entries κ α} {e : κ × α}
    (h : e ∈ put key value es) : e = (key, value) ∨ e ∈ es := by
  induction es with
  | nil => exact Or.inl (List.mem_singleton.1 h)
  | cons f es ih =>
    obtain ⟨k, a⟩ := f
    rw [put] at h
    split at h
    · rename_i hk
      rcases List.mem_cons.1 h with he | he
      · exact Or.inl (hk ▸ he)
      · exact Or.inr (List.mem_cons_of_mem _ he)
    · rcases List.mem_cons.1 h with he | he
      · exact Or.inr (he ▸ List.mem_cons_self)
      · exact (ih he).imp_right (List.mem_cons_of_mem _)

theorem mem_of_mem_putAll {es more : Entries κ α} {e : κ × α} (h : e ∈ putAll es more) :
    e ∈ es ∨ e ∈ more := by
  induction more generalizing es with
  | nil => exact Or.inl h
  | cons f more ih =>
    rcases ih h with he | he
    · rcases mem_of_mem_put he with rfl | he
      · exact Or.inr List.mem_cons_self
      · exact Or.inl he
    · exact Or.inr (List.mem_cons_of_mem _ he)

/-- Every entry comes from the list. -/
theorem mem_of_mem_ofList {es : List (κ × α)} {e : κ × α} (h : e ∈ ofList es) : e ∈ es := by
  rcases mem_of_mem_putAll h with he | he
  · cases he
  · exact he

/-- A list with distinct keys is taken over as it is. -/
theorem ofList_of_nodup {es : List (κ × α)} (h : (keys es).Nodup) : ofList es = es := by
  have hall : (keys ([] ++ es)).Nodup := h
  have hput := putAll_of_nodup hall
  rwa [List.nil_append] at hput

/-! ## Look-up -/

@[simp] theorem get?_nil (key : κ) : get? key ([] : Entries κ α) = none := rfl

theorem get?_cons (key k : κ) (a : α) (es : Entries κ α) :
    get? key ((k, a) :: es) = if k = key then some a else get? key es := rfl

@[simp] theorem get?_cons_self (key : κ) (a : α) (es : Entries κ α) :
    get? key ((key, a) :: es) = some a := by
  rw [get?_cons, if_pos rfl]

theorem get?_append (key : κ) (es fs : Entries κ α) :
    get? key (es ++ fs) = (get? key es).or (get? key fs) := by
  induction es with
  | nil => rfl
  | cons e es ih =>
    obtain ⟨k, a⟩ := e
    rw [List.cons_append, get?_cons, get?_cons, ih]
    split <;> rfl

theorem get?_put (key k : κ) (value : α) (es : Entries κ α) :
    get? k (put key value es) = if key = k then some value else get? k es := by
  induction es with
  | nil => rfl
  | cons e es ih =>
    obtain ⟨l, a⟩ := e
    by_cases hl : l = key
    · subst hl
      rw [put, if_pos rfl, get?_cons, get?_cons]
      split <;> rfl
    · rw [put, if_neg hl, get?_cons, get?_cons, ih]
      by_cases hk : l = k
      · rw [if_pos hk, if_pos hk, if_neg (fun h => hl (hk.trans h.symm))]
      · rw [if_neg hk, if_neg hk]

/-- Entries that are kept by their keys. -/
theorem get?_filter (keep : κ → Bool) (k : κ) (es : Entries κ α) :
    get? k (es.filter fun (l, _) => keep l) = if keep k then get? k es else none := by
  induction es with
  | nil => simp
  | cons e es ih =>
    obtain ⟨l, a⟩ := e
    rw [get?_cons]
    by_cases hl : l = k
    · subst hl
      cases hkeep : keep l <;> simp_all
    · rw [if_neg hl, ← ih]
      cases hkeep : keep l with
      | false => simp [hkeep]
      | true => simp [hkeep, get?_cons, hl]

theorem get?_erase (key k : κ) (es : Entries κ α) :
    get? k (erase key es) = if key = k then none else get? k es := by
  rw [erase, get?_filter fun l => l ≠ key]
  by_cases hk : key = k
  · simp [hk]
  · simp [hk, Ne.symm hk]

theorem get?_eq_none {key : κ} {es : Entries κ α} : get? key es = none ↔ key ∉ keys es := by
  induction es with
  | nil => simp
  | cons e es ih =>
    obtain ⟨k, a⟩ := e
    rw [get?_cons, keys_cons, List.mem_cons, not_or]
    by_cases hk : k = key
    · simp [hk]
    · rw [if_neg hk, ih]
      exact ⟨fun h => ⟨Ne.symm hk, h⟩, fun h => h.2⟩

theorem mem_of_get? {key : κ} {a : α} {es : Entries κ α} (h : get? key es = some a) :
    (key, a) ∈ es := by
  induction es with
  | nil => simp at h
  | cons e es ih =>
    obtain ⟨k, b⟩ := e
    rw [get?_cons] at h
    split at h
    · rename_i hk
      rw [Option.some.injEq] at h
      rw [hk, h]
      exact List.mem_cons_self
    · exact List.mem_cons_of_mem _ (ih h)

end ToolBindings.Entries
