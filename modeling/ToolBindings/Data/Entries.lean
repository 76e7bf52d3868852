/-!
# Entries

Finite maps that keep the order in which their keys first came: a list of pairs. `put` changes the
value of a key in place or appends a new key. Entries put together from any list have distinct keys.
-/

namespace ToolBindings

/-- Keys with their values, in the order in which the keys first came. -/
abbrev Entries (κ : Type) (α : Type) := List (κ × α)

namespace Entries

variable {κ α : Type} [DecidableEq κ]

/-- The value of a key. -/
def get? (key : κ) : Entries κ α → Option α
  | [] => none
  | (k, a) :: rest => if k = key then some a else get? key rest

/-- Sets the value of a key: in place if the key is there, at the end otherwise. -/
def put (key : κ) (value : α) : Entries κ α → Entries κ α
  | [] => [(key, value)]
  | (k, a) :: rest => if k = key then (k, value) :: rest else (k, a) :: put key value rest

/-- Puts every entry of a list, in its order. -/
def putAll (entries more : Entries κ α) : Entries κ α :=
  more.foldl (fun es (k, a) => es.put k a) entries

/-- Entries of a list in which a key may come twice: the last value stands where the key first
came. -/
def ofList (entries : List (κ × α)) : Entries κ α := putAll [] entries

/-- Removes a key. -/
def erase (key : κ) (entries : Entries κ α) : Entries κ α :=
  entries.filter fun (k, _) => k ≠ key

/-- Whether the key is there. -/
def has (key : κ) (entries : Entries κ α) : Bool := (get? key entries).isSome

omit [DecidableEq κ] in
/-- The keys in order. -/
def keys (entries : Entries κ α) : List κ := entries.map (·.1)

omit [DecidableEq κ] in
/-- The values in the order of their keys. -/
def values (entries : Entries κ α) : List α := entries.map (·.2)

/-! ## Distinct keys -/

omit [DecidableEq κ] in
@[simp] theorem keys_nil : keys ([] : Entries κ α) = [] := rfl

omit [DecidableEq κ] in
@[simp] theorem keys_cons (key : κ) (value : α) (es : Entries κ α) :
    keys ((key, value) :: es) = key :: keys es := rfl

omit [DecidableEq κ] in
@[simp] theorem keys_append (es fs : Entries κ α) : keys (es ++ fs) = keys es ++ keys fs :=
  List.map_append

theorem keys_put_of_mem {key : κ} (value : α) {es : Entries κ α} (h : key ∈ keys es) :
    keys (put key value es) = keys es := by
  induction es with
  | nil => simp at h
  | cons e es ih =>
    obtain ⟨k, a⟩ := e
    by_cases hk : k = key
    · simp [put, hk]
    · have hmem : key ∈ keys es := by
        rw [keys_cons, List.mem_cons] at h
        exact h.resolve_left (Ne.symm hk)
      simp [put, hk, ih hmem]

/-- A new key is put at the end. -/
theorem put_of_not_mem {key : κ} (value : α) {es : Entries κ α} (h : key ∉ keys es) :
    put key value es = es ++ [(key, value)] := by
  induction es with
  | nil => rfl
  | cons e es ih =>
    obtain ⟨k, a⟩ := e
    rw [keys_cons, List.mem_cons, not_or] at h
    rw [put, if_neg (Ne.symm h.1), ih h.2]
    rfl

theorem nodup_keys_put {es : Entries κ α} (h : (keys es).Nodup) (key : κ) (value : α) :
    (keys (put key value es)).Nodup := by
  by_cases hmem : key ∈ keys es
  · rwa [keys_put_of_mem value hmem]
  · rw [put_of_not_mem value hmem, keys_append]
    have hdisjoint : ∀ k ∈ keys es, ∀ l ∈ [key], k ≠ l := by
      intro k hk l hl heq
      rw [List.mem_singleton.1 hl] at heq
      exact hmem (heq ▸ hk)
    exact List.nodup_append.2 ⟨h, by simp, hdisjoint⟩

/-- Entries put together from any list have distinct keys. -/
theorem nodup_keys_putAll {es : Entries κ α} (h : (keys es).Nodup) (more : Entries κ α) :
    (keys (putAll es more)).Nodup := by
  induction more generalizing es with
  | nil => exact h
  | cons e more ih => exact ih (nodup_keys_put h e.1 e.2)

theorem nodup_keys_ofList (es : List (κ × α)) : (keys (ofList es)).Nodup :=
  nodup_keys_putAll (by simp) es

end Entries
end ToolBindings
