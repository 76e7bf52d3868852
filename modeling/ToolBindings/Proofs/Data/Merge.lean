import ToolBindings.Data.Merge
import ToolBindings.Proofs.Data.Tokens

/-!
# Merged layers, path by path

What stands at a path of keys after two layers of data are merged (`Layered`): what the upper layer
has there, or else what the lower layer has there, unless the upper layer ends on the way. The keys
of the lower layer come first (`keys_mergeFields`). A layer that is merged in once is not seen a
second time (`mergeFields_idem`).
-/

namespace ToolBindings

namespace Entries

variable {κ α : Type} [DecidableEq κ]

/-- Entries with the same distinct keys in the same order and the same value for each are equal. -/
theorem eq_of_get? {es fs : Entries κ α} (hkeys : keys es = keys fs) (hnodup : (keys es).Nodup)
    (h : ∀ key, get? key es = get? key fs) : es = fs := by
  induction es generalizing fs with
  | nil => exact (List.map_eq_nil_iff.1 hkeys.symm).symm
  | cons e es ih =>
    obtain ⟨key, a⟩ := e
    cases fs with
    | nil => cases hkeys
    | cons f fs =>
      obtain ⟨key', b⟩ := f
      rw [keys_cons, keys_cons, List.cons.injEq] at hkeys
      obtain ⟨rfl, hkeys⟩ := hkeys
      obtain ⟨hnew, hnodup⟩ := List.nodup_cons.1 hnodup
      have hvalue := h key
      rw [get?_cons_self, get?_cons_self, Option.some.injEq] at hvalue
      have hrest : es = fs := by
        refine ih hkeys hnodup fun k => ?_
        by_cases hk : key = k
        · -- the first key comes in neither rest
          subst hk
          rw [get?_eq_none.2 hnew, get?_eq_none.2 (hkeys ▸ hnew)]
        · have hother := h k
          rwa [get?_cons, get?_cons, if_neg hk, if_neg hk] at hother
      rw [hvalue, hrest]

end Entries

namespace Data

variable {κ : Type} [DecidableEq κ]

/-! ## Fields -/

/-- The fields of a value that is a map; a value that is missing or none has no fields. -/
def fieldsOf (value : Option (Data κ)) : Entries κ (Data κ) := (value.bind map?).getD []

/-- A key that the upper layer does not have keeps its value. -/
theorem get?_mergeFields_of_none {key : κ} {base upper : Entries κ (Data κ)}
    (h : Entries.get? key upper = none) :
    Entries.get? key (mergeFields base upper) = Entries.get? key base := by
  induction upper generalizing base with
  | nil => rfl
  | cons f upper ih =>
    obtain ⟨k, value⟩ := f
    rw [Entries.get?_cons] at h
    split at h
    · cases h
    · rename_i hk
      rw [mergeFields, ih h, Entries.get?_put, if_neg hk]

/-- A key that the upper layer has gets the two values merged. -/
theorem get?_mergeFields_of_some {key : κ} {base upper : Entries κ (Data κ)} {value : Data κ}
    (hnodup : (Entries.keys upper).Nodup) (h : Entries.get? key upper = some value) :
    Entries.get? key (mergeFields base upper)
      = some (mergeValue (Entries.get? key base) value) := by
  induction upper generalizing base with
  | nil => cases h
  | cons f upper ih =>
    obtain ⟨k, first⟩ := f
    obtain ⟨hnew, hnodup⟩ := List.nodup_cons.1 hnodup
    rw [Entries.get?_cons] at h
    rw [mergeFields]
    split at h
    · rename_i hk
      cases h
      subst hk
      rw [get?_mergeFields_of_none (Entries.get?_eq_none.2 hnew), Entries.get?_put, if_pos rfl]
    · rename_i hk
      rw [ih hnodup h, Entries.get?_put, if_neg hk]

/-- The keys of the lower layer come first, then those that only the upper layer has. -/
theorem keys_mergeFields {base upper : Entries κ (Data κ)} (h : (Entries.keys upper).Nodup) :
    Entries.keys (mergeFields base upper)
      = Entries.keys base ++ (Entries.keys upper).filter (· ∉ Entries.keys base) := by
  induction upper generalizing base with
  | nil => exact (List.append_nil _).symm
  | cons f upper ih =>
    obtain ⟨key, value⟩ := f
    obtain ⟨hnew, hnodup⟩ := List.nodup_cons.1 h
    rw [mergeFields, ih hnodup, Entries.keys_cons, List.filter_cons]
    by_cases hmem : key ∈ Entries.keys base
    · rw [Entries.keys_put_of_mem _ hmem, if_neg (by simpa using hmem)]
    · rw [Entries.put_of_not_mem _ hmem, Entries.keys_append, if_pos (by simpa using hmem)]
      -- the key that is put is none of those that come after it
      have hsame : (Entries.keys upper).filter (· ∉ Entries.keys base ++ [key])
          = (Entries.keys upper).filter (· ∉ Entries.keys base) := by
        refine List.filter_congr fun k hk => ?_
        have hother : k ≠ key := fun heq => hnew (heq ▸ hk)
        simp [hother]
      rw [Entries.keys_cons, Entries.keys_nil, hsame, List.append_assoc]
      rfl

theorem mem_keys_mergeFields {key : κ} {base upper : Entries κ (Data κ)} :
    key ∈ Entries.keys (mergeFields base upper)
      ↔ key ∈ Entries.keys base ∨ key ∈ Entries.keys upper := by
  induction upper generalizing base with
  | nil => simp [mergeFields]
  | cons f upper ih =>
    obtain ⟨k, value⟩ := f
    rw [mergeFields, ih, Entries.mem_keys_put, Entries.keys_cons, List.mem_cons, or_right_comm,
      or_comm, or_left_comm]

theorem nodup_keys_mergeFields {base upper : Entries κ (Data κ)}
    (hbase : (Entries.keys base).Nodup) (hupper : (Entries.keys upper).Nodup) :
    (Entries.keys (mergeFields base upper)).Nodup := by
  rw [keys_mergeFields hupper]
  refine List.nodup_append.2 ⟨hbase, hupper.filter _, fun k hk l hl heq => ?_⟩
  have hnew := (List.mem_filter.1 hl).2
  rw [decide_eq_true_eq] at hnew
  exact hnew (heq ▸ hk)

/-- Nothing is merged under a layer without fields. -/
theorem mergeFields_nil {upper : Entries κ (Data κ)} (h : (Entries.keys upper).Nodup) :
    mergeFields [] upper = upper := by
  have hkeys : Entries.keys (mergeFields [] upper) = Entries.keys upper := by
    rw [keys_mergeFields h, Entries.keys_nil, List.nil_append, List.filter_eq_self]
    simp
  refine Entries.eq_of_get? hkeys (hkeys ▸ h) fun key => ?_
  cases hget : Entries.get? key upper with
  | none => exact get?_mergeFields_of_none hget
  | some value =>
    rw [get?_mergeFields_of_some h hget]
    cases value <;> rfl

/-! ## Values -/

/-- A value that is no map takes the place of what is below it. -/
theorem mergeValue_of_map?_eq_none {upper : Data κ} (h : upper.map? = none)
    (lower : Option (Data κ)) : mergeValue lower upper = upper := by
  cases upper with
  | map fields => cases h
  | _ => rfl

/-- A map is merged over the fields below it. -/
theorem mergeValue_map {fields : Entries κ (Data κ)} (h : (Entries.keys fields).Nodup)
    (lower : Option (Data κ)) :
    mergeValue lower (.map fields) = .map (mergeFields (fieldsOf lower) fields) := by
  have halone : (Data.map fields : Data κ) = .map (mergeFields [] fields) := by
    rw [mergeFields_nil h]
  cases lower with
  | none => exact halone
  | some value =>
    cases value with
    | map base => rfl
    | _ => exact halone

/-! ## Once is enough -/

/-- The value changes nothing where it has been merged in before. -/
def Absorbed (upper : Data κ) : Prop :=
  ∀ lower : Option (Data κ), (∀ value ∈ lower, value.distinctKeys = true) →
    mergeValue (some (mergeValue lower upper)) upper = mergeValue lower upper

theorem distinctKeys_get? {fields : Entries κ (Data κ)} (h : (map fields).distinctKeys = true)
    (key : κ) : ∀ value ∈ Entries.get? key fields, value.distinctKeys = true :=
  fun _ hvalue => distinctKeys_of_field h hvalue

theorem distinctKeys_fieldsOf {lower : Option (Data κ)}
    (h : ∀ value ∈ lower, value.distinctKeys = true) :
    (map (fieldsOf lower)).distinctKeys = true := by
  cases lower with
  | none => rfl
  | some value =>
    cases value with
    | map fields => exact h _ rfl
    | _ => rfl

/-- Fields that change nothing one by one change nothing together. -/
theorem mergeFields_mergeFields {base upper : Entries κ (Data κ)}
    (hbase : (map base).distinctKeys = true) (hupper : (Entries.keys upper).Nodup)
    (h : ∀ f ∈ upper, Absorbed f.2) :
    mergeFields (mergeFields base upper) upper = mergeFields base upper := by
  have hmerged := nodup_keys_mergeFields (distinctKeys_map.1 hbase).1 hupper
  have hkeys : Entries.keys (mergeFields (mergeFields base upper) upper)
      = Entries.keys (mergeFields base upper) := by
    have hnone : (Entries.keys upper).filter (· ∉ Entries.keys (mergeFields base upper)) = [] := by
      rw [List.filter_eq_nil_iff]
      intro key hkey
      rw [keys_mergeFields hupper]
      by_cases hmem : key ∈ Entries.keys base <;> simp [hmem, hkey]
    rw [keys_mergeFields hupper, hnone, List.append_nil]
  refine Entries.eq_of_get? hkeys (hkeys ▸ hmerged) fun key => ?_
  cases hget : Entries.get? key upper with
  | none => exact get?_mergeFields_of_none hget
  | some value =>
    rw [get?_mergeFields_of_some hupper hget, get?_mergeFields_of_some hupper hget]
    exact congrArg some (h (key, value) (Entries.mem_of_get? hget) _ (distinctKeys_get? hbase key))

mutual

theorem absorbed : ∀ upper : Data κ, upper.distinctKeys = true → Absorbed upper
  | .map fields, h => by
    intro lower hlower
    obtain ⟨hnodup, hfields⟩ := distinctKeys_map.1 h
    have hlower := distinctKeys_fieldsOf hlower
    rw [mergeValue_map hnodup, mergeValue_map hnodup]
    exact congrArg map
      (mergeFields_mergeFields hlower hnodup (absorbedFields fields hfields))
  | .list _, _ | .null, _ | .bool _, _ | .int _, _ | .float _, _ | .text _, _ => fun _ _ => rfl

theorem absorbedFields : ∀ fields : List (κ × Data κ), distinctKeysFields fields = true →
    ∀ f ∈ fields, Absorbed f.2
  | [], _ => List.forall_mem_nil _
  | (_, value) :: rest, h => by
    rw [distinctKeysFields, Bool.and_eq_true] at h
    exact List.forall_mem_cons.2 ⟨absorbed value h.1, absorbedFields rest h.2⟩

end

/-- A layer that is merged in a second time changes nothing. -/
theorem mergeFields_idem {base upper : Entries κ (Data κ)}
    (hbase : (map base).distinctKeys = true) (hupper : (map upper).distinctKeys = true) :
    mergeFields (mergeFields base upper) upper = mergeFields base upper := by
  obtain ⟨hnodup, hfields⟩ := distinctKeys_map.1 hupper
  exact mergeFields_mergeFields hbase hnodup (absorbedFields upper hfields)

/-- A layer over itself is itself. -/
theorem mergeFields_self {fields : Entries κ (Data κ)} (h : (map fields).distinctKeys = true) :
    mergeFields fields fields = fields := by
  have htwice : mergeFields (mergeFields [] fields) fields = mergeFields [] fields :=
    mergeFields_idem rfl h
  rwa [mergeFields_nil (distinctKeys_map.1 h).1] at htwice

/-! ## Paths -/

/-- The value at a path of keys that leads through maps. -/
def at? (value : Data κ) : List κ → Option (Data κ)
  | [] => some value
  | key :: path => (value.field? key).bind fun inner => inner.at? path

theorem at?_append (value : Data κ) (path more : List κ) :
    value.at? (path ++ more) = (value.at? path).bind (·.at? more) := by
  induction path generalizing value with
  | nil => rfl
  | cons key path ih =>
    rw [List.cons_append, at?, at?, Option.bind_assoc]
    simp only [ih]

/-- A path ends at a value that is no map. -/
theorem at?_of_map?_eq_none {value : Data κ} (h : value.map? = none) {path : List κ}
    (hpath : path ≠ []) : value.at? path = none := by
  cases path with
  | nil => exact absurd rfl hpath
  | cons key path =>
    cases value with
    | map fields => cases h
    | _ => rfl

theorem get?_fieldsOf (key : κ) (lower : Option (Data κ)) :
    Entries.get? key (fieldsOf lower) = lower.bind (·.field? key) := by
  cases lower with
  | none => rfl
  | some value => cases value <;> rfl

/-- Where the upper layer has a value the two values are merged. -/
theorem at?_mergeValue {upper value : Data κ} (hdistinct : upper.distinctKeys = true)
    {path : List κ} (h : upper.at? path = some value) (lower : Option (Data κ)) :
    (mergeValue lower upper).at? path
      = some (mergeValue (lower.bind (·.at? path)) value) := by
  induction path generalizing upper lower with
  | nil =>
    cases h
    cases lower <;> rfl
  | cons key path ih =>
    obtain ⟨inner, hinner, hvalue⟩ := Option.bind_eq_some_iff.1 h
    cases upper with
    | map fields =>
      have hnodup := (distinctKeys_map.1 hdistinct).1
      rw [mergeValue_map hnodup, at?, field?, get?_mergeFields_of_some hnodup hinner,
        Option.bind_some, ih (distinctKeys_of_field hdistinct hinner) hvalue, get?_fieldsOf,
        Option.bind_assoc]
      rfl
    | _ => cases hinner

/-- Where the upper layer has nothing, and only maps on the way, the lower layer shows. -/
theorem at?_mergeValue_of_none {upper : Data κ} (hdistinct : upper.distinctKeys = true)
    {path : List κ} (h : upper.at? path = none)
    (hway : ∀ front more value, path = front ++ more → upper.at? front = some value →
      value.map? ≠ none) (lower : Option (Data κ)) :
    (mergeValue lower upper).at? path = lower.bind (·.at? path) := by
  induction path generalizing upper lower with
  | nil => cases h
  | cons key path ih =>
    cases upper with
    | map fields =>
      have hnodup := (distinctKeys_map.1 hdistinct).1
      have hlower : (lower.bind fun value => value.at? (key :: path))
          = (Entries.get? key (fieldsOf lower)).bind (·.at? path) := by
        rw [get?_fieldsOf, Option.bind_assoc]
        rfl
      rw [mergeValue_map hnodup, at?, field?, hlower]
      cases hget : Entries.get? key fields with
      | none => rw [get?_mergeFields_of_none hget]
      | some inner =>
        rw [get?_mergeFields_of_some hnodup hget, Option.bind_some]
        have hfield : (map fields).field? key = some inner := hget
        rw [at?, hfield, Option.bind_some] at h
        refine ih (distinctKeys_of_field hdistinct hget) h ?_ _
        intro front more value hpath hvalue
        refine hway (key :: front) more value (by rw [hpath, List.cons_append]) ?_
        rw [at?, hfield, Option.bind_some, hvalue]
    | _ => exact absurd rfl (hway [] (key :: path) _ rfl rfl)

/-- How two layers show in merged data, path by path. -/
structure Layered (lower upper merged : Data κ) : Prop where
  /-- A value of the upper layer that is no map stands where it stands there. -/
  value : ∀ path v, upper.at? path = some v → v.map? = none → merged.at? path = some v
  /-- Where the upper layer has nothing, and only maps on the way, the lower layer shows. -/
  below : ∀ path, upper.at? path = none →
    (∀ front more v, path = front ++ more → upper.at? front = some v → v.map? ≠ none) →
      merged.at? path = lower.at? path
  /-- Behind a value of the upper layer that is no map there is nothing. -/
  behind : ∀ front more v, more ≠ [] → upper.at? front = some v → v.map? = none →
    merged.at? (front ++ more) = none
  /-- A map of the upper layer is a map, with the keys that the lower layer has there in their order
  and the new keys after them in theirs. -/
  map : ∀ path fields, upper.at? path = some (.map fields) →
    ∃ more, merged.at? path = some (.map more) ∧
      Entries.keys more = Entries.keys (fieldsOf (lower.at? path)) ++
        (Entries.keys fields).filter (· ∉ Entries.keys (fieldsOf (lower.at? path)))

theorem distinctKeys_of_at? {value inner : Data κ} (hdistinct : value.distinctKeys = true)
    {path : List κ} (h : value.at? path = some inner) : inner.distinctKeys = true := by
  induction path generalizing value with
  | nil =>
    cases h
    exact hdistinct
  | cons key path ih =>
    obtain ⟨next, hnext, hinner⟩ := Option.bind_eq_some_iff.1 h
    cases value with
    | map fields => exact ih (distinctKeys_of_field hdistinct hnext) hinner
    | _ => cases hnext

/-- Layers that are merged show path by path: a value of the upper layer that is no map stands where
it stood and ends every path that leads on from there, maps are merged with the keys of the lower
layer first, and elsewhere the lower layer is left as it was. Merging the upper layer in again
changes nothing, and a layer merged with itself is itself. -/
theorem layered_mergeFields {base upper : Entries κ (Data κ)}
    (hbase : (map base).distinctKeys = true) (hupper : (map upper).distinctKeys = true) :
    Layered (.map base) (.map upper) (.map (mergeFields base upper)) ∧
      mergeFields (mergeFields base upper) upper = mergeFields base upper ∧
      mergeFields base base = base := by
  have hmerged : mergeValue (some (.map base)) (.map upper) = .map (mergeFields base upper) := rfl
  have hvalue : ∀ path v, (map upper).at? path = some v → v.map? = none →
      (map (mergeFields base upper)).at? path = some v := by
    intro path v hv hmap
    rw [← hmerged, at?_mergeValue hupper hv, mergeValue_of_map?_eq_none hmap]
  refine ⟨⟨hvalue, ?_, ?_, ?_⟩, mergeFields_idem hbase hupper, mergeFields_self hbase⟩
  · intro path hnone hway
    rw [← hmerged, at?_mergeValue_of_none hupper hnone hway]
    rfl
  · intro front more v hmore hv hmap
    rw [at?_append, hvalue front v hv hmap, Option.bind_some, at?_of_map?_eq_none hmap hmore]
  · intro path fields hfields
    have hnodup := (distinctKeys_map.1 (distinctKeys_of_at? hupper hfields)).1
    refine ⟨_, ?_, keys_mergeFields hnodup⟩
    rw [← hmerged, at?_mergeValue hupper hfields, mergeValue_map hnodup]
    rfl

/-- A lower layer: a server with retry values of its own, and those of the package. -/
def lowerLayer : Entries String Json :=
  [("servers", .map [("crm", .map [("endpoint", .text "https://crm.example/mcp"),
      ("retry", .map [("attempts", .int 3)])])]),
    ("retry", .map [("attempts", .int 2)])]

/-- An upper layer: it has something else than a map where the lower layer has one, and adds to the
maps of the server. -/
def upperLayer : Entries String Json :=
  [("retry", .int 5),
    ("servers", .map [("crm", .map [("manifest", .text "crm.json"),
      ("retry", .map [("backoff_ms", .int 50), ("attempts", .int 1)])])]),
    ("generated", .null)]

theorem layered_mergeFields_servers :
    Layered (.map lowerLayer) (.map upperLayer) (.map [
        ("servers", .map [("crm", .map [("endpoint", .text "https://crm.example/mcp"),
          ("retry", .map [("attempts", .int 1), ("backoff_ms", .int 50)]),
          ("manifest", .text "crm.json")])]),
        ("retry", .int 5), ("generated", .null)]) ∧
      mergeFields (mergeFields lowerLayer upperLayer) upperLayer
        = mergeFields lowerLayer upperLayer ∧
      mergeFields lowerLayer lowerLayer = lowerLayer :=
  layered_mergeFields (by decide : (map lowerLayer).distinctKeys = true)
    (by decide : (map upperLayer).distinctKeys = true)

end Data
end ToolBindings
