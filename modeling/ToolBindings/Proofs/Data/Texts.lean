import ToolBindings.Data.Merge
import ToolBindings.Proofs.Data.Entries

/-!
# Texts inside data

A function that is applied to every text of a value leaves the keys, their order and the kinds of
the values alone, so that it does not matter whether layers are merged before or after it
(`mapTextsFields_mergeFields`). Only what it makes of the texts that are there counts
(`mapTexts_congr`).
-/

namespace ToolBindings.Data

variable {κ : Type}

/-! ## Merged layers -/

@[simp] theorem keys_mapTextsFields (f : String → String) (fields : Entries κ (Data κ)) :
    Entries.keys (mapTextsFields f fields) = Entries.keys fields := by
  induction fields with
  | nil => rfl
  | cons field fields ih =>
    obtain ⟨key, value⟩ := field
    rw [mapTextsFields, Entries.keys_cons, Entries.keys_cons, ih]

section Merged

variable [DecidableEq κ]

theorem get?_mapTextsFields (f : String → String) (key : κ) (fields : Entries κ (Data κ)) :
    Entries.get? key (mapTextsFields f fields) = (Entries.get? key fields).map (mapTexts f) := by
  induction fields with
  | nil => rfl
  | cons field fields ih =>
    obtain ⟨k, value⟩ := field
    rw [mapTextsFields, Entries.get?_cons, Entries.get?_cons, ih]
    by_cases hk : k = key
    · rw [if_pos hk, if_pos hk]
      rfl
    · rw [if_neg hk, if_neg hk]

theorem mapTextsFields_put (f : String → String) (key : κ) (value : Data κ)
    (fields : Entries κ (Data κ)) :
    mapTextsFields f (Entries.put key value fields)
      = Entries.put key (mapTexts f value) (mapTextsFields f fields) := by
  induction fields with
  | nil => rfl
  | cons field fields ih =>
    obtain ⟨k, old⟩ := field
    rw [Entries.put, mapTextsFields, Entries.put]
    by_cases hk : k = key
    · rw [if_pos hk, if_pos hk, mapTextsFields]
    · rw [if_neg hk, if_neg hk, mapTextsFields, ih]

mutual

/-- A value that is merged over another one may have its texts replaced before or after. -/
theorem mapTexts_mergeValue (f : String → String) (lower : Option (Data κ)) : ∀ upper : Data κ,
    mapTexts f (mergeValue lower upper) = mergeValue (lower.map (mapTexts f)) (mapTexts f upper)
  | .map fields => by
    -- the lower value is a map before exactly if it is one afterwards
    cases lower with
    | none => rfl
    | some value =>
      cases value with
      | map base => exact congrArg map (mapTextsFields_mergeFields f base fields)
      | _ => rfl
  | .list _ | .null | .bool _ | .int _ | .float _ | .text _ => rfl

/-- Layers may have their texts replaced before or after they are merged. -/
theorem mapTextsFields_mergeFields (f : String → String) (base : Entries κ (Data κ)) :
    ∀ upper : List (κ × Data κ), mapTextsFields f (mergeFields base upper)
      = mergeFields (mapTextsFields f base) (mapTextsFields f upper)
  | [] => rfl
  | (key, value) :: rest => by
    -- the induction runs over the upper layer, and the lower one grows with each of its fields
    rw [mergeFields, mapTextsFields_mergeFields f _ rest, mapTextsFields_put,
      mapTexts_mergeValue f _ value, ← get?_mapTextsFields]
    rfl

end

end Merged

/-! ## The texts that are there -/

mutual

/-- The texts of the data that are no keys. -/
def texts : Data κ → List String
  | .text s => [s]
  | .list items => textsList items
  | .map fields => textsFields fields
  | .null | .bool _ | .int _ | .float _ => []

/-- Element by element. -/
def textsList : List (Data κ) → List String
  | [] => []
  | item :: rest => texts item ++ textsList rest

/-- Field by field. -/
def textsFields : List (κ × Data κ) → List String
  | [] => []
  | (_, value) :: rest => texts value ++ textsFields rest

end

mutual

/-- Functions that agree on the texts of a value make the same of it. -/
theorem mapTexts_congr {f g : String → String} : ∀ value : Data κ,
    (∀ s ∈ value.texts, f s = g s) → mapTexts f value = mapTexts g value
  | .text s, h => congrArg text (h s List.mem_cons_self)
  | .list items, h => congrArg list (mapTextsList_congr items h)
  | .map fields, h => congrArg map (mapTextsFields_congr fields h)
  | .null, _ | .bool _, _ | .int _, _ | .float _, _ => rfl

theorem mapTextsList_congr {f g : String → String} : ∀ items : List (Data κ),
    (∀ s ∈ textsList items, f s = g s) → mapTextsList f items = mapTextsList g items
  | [], _ => rfl
  | item :: rest, h => by
    obtain ⟨hitem, hrest⟩ := List.forall_mem_append.1 h
    rw [mapTextsList, mapTextsList, mapTexts_congr item hitem, mapTextsList_congr rest hrest]

theorem mapTextsFields_congr {f g : String → String} : ∀ fields : List (κ × Data κ),
    (∀ s ∈ textsFields fields, f s = g s) → mapTextsFields f fields = mapTextsFields g fields
  | [], _ => rfl
  | (_, value) :: rest, h => by
    obtain ⟨hvalue, hrest⟩ := List.forall_mem_append.1 h
    rw [mapTextsFields, mapTextsFields, mapTexts_congr value hvalue,
      mapTextsFields_congr rest hrest]

end

end ToolBindings.Data
