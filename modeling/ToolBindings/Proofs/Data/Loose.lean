import ToolBindings.Data.Loose
import ToolBindings.Proofs.Data.Sorted

/-!
# Data as it is shown

Data that is shown has no key twice in a map (`distinctKeys_shown`). A key without U+FFFD is found
where it was (`get?_shownMap`), since no half of a pair is shown as one of its characters.
-/

namespace ToolBindings

/-- Only a text itself is shown as it, if it has no character that stands for a half of a pair. -/
theorem LooseText.eq_ofString_of_shown {s : LooseText} {key : String} (h : s.shown = key)
    (hkey : Char.ofNat 0xFFFD ∉ key.toList) : s = .ofString key := by
  have hchars : key.toList = s.points.map CodePoint.shown := by
    rw [← h, shown, String.toList_ofList]
  -- so each code point is a character, and the one that is shown
  have hpoint : ∀ p ∈ s.points, .char p.shown = p := by
    intro p hp
    cases p with
    | char c => rfl
    | half k =>
      have hshown := List.mem_map_of_mem (f := CodePoint.shown) hp
      rw [← hchars] at hshown
      exact absurd hshown hkey
  have hpoints : key.toList.map CodePoint.char = s.points := by
    rw [hchars, List.map_map]
    exact (List.map_congr_left hpoint).trans (List.map_id _)
  obtain ⟨points, hapart⟩ := s
  subst hpoints
  rfl

namespace Data

mutual

theorem distinctKeys_shown : ∀ v : LooseJson, v.shown.distinctKeys = true
  | .null | .bool _ | .int _ | .float _ | .text _ => rfl
  | .list items => distinctKeysList_shown items
  | .map fields => by
    rw [shown, distinctKeys_map, distinctKeysFields_iff]
    refine ⟨Entries.nodup_keys_ofList _, fun f hf => ?_⟩
    exact distinctKeysFields_shown fields f (Entries.mem_of_mem_ofList hf)

theorem distinctKeysList_shown : ∀ items : List LooseJson,
    distinctKeysList (shownList items) = true
  | [] => rfl
  | item :: rest => by
    rw [shownList, distinctKeysList, distinctKeys_shown item, distinctKeysList_shown rest]
    rfl

theorem distinctKeysFields_shown : ∀ fields : List (LooseText × LooseJson),
    ∀ f ∈ shownFields fields, f.2.distinctKeys = true
  | [], f, hf => by cases hf
  | (key, value) :: rest, f, hf => by
    rw [shownFields, List.mem_cons] at hf
    rcases hf with rfl | hf
    · exact distinctKeys_shown value
    · exact distinctKeysFields_shown rest f hf

end

private theorem get?_putAll_shownFields {key : String} (hkey : Char.ofNat 0xFFFD ∉ key.toList)
    (fields : Entries LooseText LooseJson) (h : (Entries.keys fields).Nodup)
    (es : Entries String Json) :
    Entries.get? key (Entries.putAll es (shownFields fields))
      = ((Entries.get? (.ofString key) fields).map shown).or (Entries.get? key es) := by
  induction fields generalizing es with
  | nil => rfl
  | cons f fields ih =>
    obtain ⟨k, value⟩ := f
    rw [Entries.keys_cons, List.nodup_cons] at h
    have hput : Entries.putAll es (shownFields ((k, value) :: fields))
        = Entries.putAll (Entries.put k.shown value.shown es) (shownFields fields) := rfl
    rw [hput, ih h.2, Entries.get?_put, Entries.get?_cons]
    by_cases hk : k = .ofString key
    · have hnone : Entries.get? k fields = none := Entries.get?_eq_none.2 h.1
      rw [if_pos hk, ← hk, hnone, hk, if_pos (LooseText.shown_ofString key)]
      rfl
    · have hshown : k.shown ≠ key := fun hshown => hk (LooseText.eq_ofString_of_shown hshown hkey)
      rw [if_neg hk, if_neg hshown]

/-- A key without U+FFFD is found where it was. -/
theorem get?_shownMap {key : String} (hkey : Char.ofNat 0xFFFD ∉ key.toList)
    {fields : Entries LooseText LooseJson} (h : (Entries.keys fields).Nodup) :
    Entries.get? key (shownMap fields) = (Entries.get? (.ofString key) fields).map shown := by
  have hall := get?_putAll_shownFields hkey fields h []
  rw [Entries.get?_nil, Option.or_none] at hall
  exact hall

theorem filterMap_shownList (items : List LooseJson) :
    (shownList items).filterMap map? = (items.filterMap map?).map shownMap := by
  induction items with
  | nil => rfl
  | cons item items ih =>
    rw [shownList]
    cases item with
    | map fields =>
      have hmap : map? (shown (.map fields)) = some (shownMap fields) := rfl
      rw [List.filterMap_cons_some hmap, ih]
      rfl
    | _ => exact ih

end Data
end ToolBindings
