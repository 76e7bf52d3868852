import ToolBindings.Proofs.Schema.Compiled

/-!
# Compiling again

What is kept of a schema object is a schema object in which every keyword stands as it was read, and
so it compiles to the same expression (`compile_kept`). The expression that a schema object is
compiled to therefore evaluates to a schema object that is compiled to the same text, which evaluates
to it again (`evaluate_evaluated`).
-/

namespace ToolBindings.Schema

/-! ## The schema object that is kept -/

/-- The fields that belong to the type, behind the keywords. -/
def partFields (schema : SchemaObject) : List (String × Json) :=
  match kindOf schema with
  | .array => projectItems schema
  | .object =>
    ("properties", .map (projectProperties schema)) ::
      requiredFields (requiredNames schema) (projectProperties schema) ++
        (if isClosed schema then [("additionalProperties", .bool false)] else [])
  | _ => []

/-- What is kept of a schema object. -/
def kept (schema : SchemaObject) : SchemaObject :=
  ("type", Node.typeValue (kindOf schema) (isNullable schema)) :: keywordFields schema ++
    partFields schema

theorem project_eq (schema : SchemaObject) : project schema = .map (kept schema) := by
  rw [project]
  rfl

/-- The keys of the fields of parts. -/
def partKeys : List String := ["items", "properties", "required", "additionalProperties"]

section

variable {schema : SchemaObject} {kind : Kind} {key : String}

/-- A keyword is neither the key of a part nor about the type. -/
theorem word_not_mem {s : Setting × (Json → Bool)} (hs : s ∈ settings kind) :
    s.1.word kind ∉ "type" :: "nullable" :: partKeys := by
  revert s
  cases kind <;> decide

theorem mem_partKeys (h : key ∈ Entries.keys (partFields schema)) : key ∈ partKeys := by
  rw [partFields] at h
  split at h
  · rw [projectItems_eq] at h
    split at h
    · simp only [Entries.keys_cons, Entries.keys_nil, List.mem_singleton] at h
      simp [partKeys, h]
    · cases h
  · rw [List.cons_append, Entries.keys_cons, Entries.keys_append, List.mem_cons, List.mem_append,
      requiredFields] at h
    rcases h with rfl | h | h
    · simp [partKeys]
    · split at h
      · cases h
      · simp only [Entries.keys_cons, Entries.keys_nil, List.mem_singleton] at h
        simp [partKeys, h]
    · split at h
      · simp only [Entries.keys_cons, Entries.keys_nil, List.mem_singleton] at h
        simp [partKeys, h]
      · cases h
  · cases h

/-- The keywords of a schema object that are kept are those of its type. -/
theorem exists_of_mem_keywordFields (h : key ∈ Entries.keys (keywordFields schema)) :
    ∃ s ∈ settings (kindOf schema), key = s.1.word (kindOf schema) := by
  rw [keywordFields_eq, Entries.keys, List.map_flatMap, List.mem_flatMap] at h
  obtain ⟨s, hs, hkey⟩ := h
  exact ⟨s, hs, mem_keys_keep hkey⟩

theorem get?_keep (accept : Json → Bool) (key : String) (schema : SchemaObject) :
    Entries.get? key (keep accept key schema) = (Entries.get? key schema).filter accept := by
  rw [keep]
  cases Entries.get? key schema with
  | none => rfl
  | some value => by_cases haccept : accept value = true <;> simp [Option.filter, haccept]

theorem get?_keep_of_ne {accept : Json → Bool} {key k : String} (h : k ≠ key)
    (schema : SchemaObject) : Entries.get? k (keep accept key schema) = none :=
  Entries.get?_eq_none.2 fun hmem => h (mem_keys_keep hmem)

/-- Of keywords that are kept one after the other, each under a key of its own, every one is found. -/
theorem get?_flatMap_keep {told : List (Setting × (Json → Bool))}
    (hdistinct : (told.map fun s => s.1.word kind).Nodup) {s : Setting × (Json → Bool)}
    (hs : s ∈ told) :
    Entries.get? (s.1.word kind) (told.flatMap fun s => keep s.2 (s.1.word kind) schema)
      = (Entries.get? (s.1.word kind) schema).filter s.2 := by
  induction told with
  | nil => cases hs
  | cons first told ih =>
    rw [List.map_cons, List.nodup_cons] at hdistinct
    rw [List.flatMap_cons, Entries.get?_append]
    rcases List.mem_cons.1 hs with rfl | hs
    · -- the later ones are under other keys
      have hnone : Entries.get? (s.1.word kind)
          (told.flatMap fun s => keep s.2 (s.1.word kind) schema) = none := by
        rw [Entries.get?_eq_none, Entries.keys, List.map_flatMap, List.mem_flatMap]
        rintro ⟨other, hother, hkey⟩
        exact hdistinct.1 (List.mem_map.2 ⟨other, hother, (mem_keys_keep hkey).symm⟩)
      rw [get?_keep, hnone, Option.or_none]
    · have hne : s.1.word kind ≠ first.1.word kind :=
        fun heq => hdistinct.1 (heq ▸ List.mem_map_of_mem hs)
      rw [get?_keep_of_ne hne, Option.none_or, ih hdistinct.2 hs]

end

section

variable (schema : SchemaObject)

theorem get?_kept_type :
    Entries.get? "type" (kept schema) = some (Node.typeValue (kindOf schema) (isNullable schema)) :=
  Entries.get?_cons_self ..

/-- A keyword that is kept is found as it was. -/
theorem get?_kept_word {s : Setting × (Json → Bool)} (hs : s ∈ settings (kindOf schema)) :
    Entries.get? (s.1.word (kindOf schema)) (kept schema)
      = (Entries.get? (s.1.word (kindOf schema)) schema).filter s.2 := by
  have hword := word_not_mem hs
  have htype : "type" ≠ s.1.word (kindOf schema) := fun heq => hword (heq ▸ List.mem_cons_self)
  have hpart : Entries.get? (s.1.word (kindOf schema)) (partFields schema) = none :=
    Entries.get?_eq_none.2 fun hmem =>
      hword (List.mem_cons_of_mem _ (List.mem_cons_of_mem _ (mem_partKeys hmem)))
  rw [kept, List.cons_append, Entries.get?_cons, if_neg htype, Entries.get?_append, hpart,
    Option.or_none, keywordFields_eq, get?_flatMap_keep (nodup_settings _) hs]

/-- What is no keyword is found among the parts. -/
theorem get?_kept {key : String} (h : key ∈ "nullable" :: partKeys) :
    Entries.get? key (kept schema) = Entries.get? key (partFields schema) := by
  have htype : "type" ≠ key := by
    rintro rfl
    revert h
    decide
  have hnone : Entries.get? key (keywordFields schema) = none := by
    rw [Entries.get?_eq_none]
    intro hmem
    obtain ⟨s, hs, rfl⟩ := exists_of_mem_keywordFields hmem
    exact word_not_mem hs (List.mem_cons_of_mem _ h)
  rw [kept, List.cons_append, Entries.get?_cons, if_neg htype, Entries.get?_append, hnone,
    Option.none_or]

/-! ## What is read off it -/

theorem primaryType_kept : primaryType (kept schema) = (kindOf schema).word := by
  rw [primaryType, get?_kept_type, Node.typeValue]
  cases isNullable schema with
  | false => rfl
  | true => cases kindOf schema <;> rfl

theorem kindOf_kept : kindOf (kept schema) = kindOf schema := by
  rw [kindOf, primaryType_kept, ofWord?_word, Option.getD_some]

theorem isNullable_kept : isNullable (kept schema) = isNullable schema := by
  have hnone : Entries.get? "nullable" (kept schema) = none := by
    rw [get?_kept schema List.mem_cons_self, Entries.get?_eq_none]
    intro hmem
    have hpart := mem_partKeys hmem
    revert hpart
    decide
  rw [isNullable, get?_kept_type, hnone, Node.typeValue]
  cases isNullable schema with
  | false => rfl
  | true => cases kindOf schema <;> rfl

theorem tell_kept {s : Setting × (Json → Bool)} (hs : s ∈ settings (kindOf schema)) :
    tell (kindOf schema) (kept schema) s.1 s.2 = tell (kindOf schema) schema s.1 s.2 := by
  rw [tell, tell, get?_kept_word schema hs]
  cases Entries.get? (s.1.word (kindOf schema)) schema with
  | none => rfl
  | some value => by_cases haccept : s.2 value = true <;> simp [Option.filter, haccept]

theorem modifierCalls_kept : modifierCalls (kept schema) = modifierCalls schema := by
  have htell : ((settings (kindOf schema)).flatMap fun s =>
      tell (kindOf schema) (kept schema) s.1 s.2)
      = (settings (kindOf schema)).flatMap fun s => tell (kindOf schema) schema s.1 s.2 := by
    rw [List.flatMap_def, List.flatMap_def, List.map_congr_left fun s hs => tell_kept schema hs]
  rw [modifierCalls_eq, modifierCalls_eq, kindOf_kept, isNullable_kept, htell]

end

/-! ## Parts -/

section

variable {schema : SchemaObject}

theorem get?_items_kept (h : kindOf schema = .array) :
    Entries.get? "items" (kept schema) = Entries.get? "items" (projectItems schema) := by
  rw [get?_kept schema (by decide), partFields, h]

theorem get?_properties_kept (h : kindOf schema = .object) :
    Entries.get? "properties" (kept schema) = some (.map (projectProperties schema)) := by
  rw [get?_kept schema (by decide), partFields, h]
  exact Entries.get?_cons_self ..

/-- Of the names that are listed as required those of properties are kept. -/
theorem requiredNames_kept (h : kindOf schema = .object) :
    requiredNames (kept schema)
      = (Entries.keys (projectProperties schema)).filter (· ∈ requiredNames schema) := by
  have hclosed : Entries.get? "required"
      (if isClosed schema then [("additionalProperties", (.bool false : Json))] else [])
        = none := by
    split <;> rfl
  have hfield : Entries.get? "required" (kept schema)
      = Entries.get? "required" (requiredFields (requiredNames schema) (projectProperties schema)) := by
    rw [get?_kept schema (by decide), partFields, h]
    dsimp only
    rw [List.cons_append, Entries.get?_cons, if_neg (by decide), Entries.get?_append, hclosed,
      Option.or_none]
  rw [requiredNames, hfield, requiredFields]
  cases (Entries.keys (projectProperties schema)).filter (· ∈ requiredNames schema) with
  | nil => rfl
  | cons name names => simp [Entries.get?_cons_self, List.filterMap_map, Function.comp_def, Data.text?]

theorem isClosed_kept (h : kindOf schema = .object) : isClosed (kept schema) = isClosed schema := by
  have hrequired : Entries.get? "additionalProperties"
      (requiredFields (requiredNames schema) (projectProperties schema)) = none := by
    rw [requiredFields]
    split <;> rfl
  have hfield : Entries.get? "additionalProperties" (kept schema)
      = if isClosed schema then some (.bool false) else none := by
    rw [get?_kept schema (by decide), partFields, h]
    dsimp only
    rw [List.cons_append, Entries.get?_cons, if_neg (by decide), Entries.get?_append, hrequired,
      Option.none_or]
    split <;> rfl
  rw [isClosed, hfield]
  cases isClosed schema <;> rfl

end

/-! ## Compiled again -/

/-- Field by field, where the same fields are required. -/
theorem compileFields_projectFields {required again : List String} {fields : List (String × Json)}
    (hrequired : ∀ name ∈ Entries.keys (projectFields fields), name ∈ again ↔ name ∈ required)
    (h : ∀ name schema, (name, .map schema) ∈ fields → compile (kept schema) = compile schema) :
    compileFields again (projectFields fields) = compileFields required fields := by
  induction fields with
  | nil => simp [compileFields, projectFields]
  | cons field rest ih =>
    have hlater := fun name schema hmem => h name schema (.tail _ hmem)
    obtain ⟨name, value⟩ := field
    cases value with
    | map schema =>
      rw [projectFields, Entries.keys_cons, List.forall_mem_cons] at hrequired
      rw [projectFields, project_eq, compileFields, compileFields, h name schema (.head _),
        ih hrequired.2 hlater]
      simp only [hrequired.1]
    | null | bool | int | float | text | list =>
      simp only [projectFields, compileFields] at hrequired ⊢
      exact ih hrequired hlater

section

variable {schema : SchemaObject}
  (h : ∀ inner, Encloses schema inner → compile (kept inner) = compile inner)
include h

theorem compileItems_kept (harray : kindOf schema = .array) :
    compileItems (kept schema) = compileItems schema := by
  rw [compileItems_eq, compileItems_eq, get?_items_kept harray, projectItems_eq]
  cases hitems : Entries.get? "items" schema with
  | none => rfl
  | some value =>
    cases value with
    | map inner => simp only [project_eq, Entries.get?_cons_self, h inner (.items hitems)]
    | _ => rfl

theorem compileProperties_kept (hobject : kindOf schema = .object) :
    compileProperties (kept schema) = compileProperties schema := by
  rw [compileProperties_eq, compileProperties_eq, get?_properties_kept hobject,
    requiredNames_kept hobject, projectProperties_eq]
  cases hproperties : Entries.get? "properties" schema with
  | none => simp only [compileFields]
  | some value =>
    cases value with
    | map fields =>
      -- a property is required again if it was, and nothing else is
      exact compileFields_projectFields (fun name hname => by simp [hname])
        fun name inner hmem => h inner (.property hproperties hmem)
    | _ => simp only [compileFields]

end

/-- What is kept of a schema object is compiled to the same expression. -/
theorem compile_kept (schema : SchemaObject) : compile (kept schema) = compile schema := by
  induction schema using Encloses.induction with
  | step schema ih =>
    rw [compile, compile, kindOf_kept, modifierCalls_kept]
    cases hkind : kindOf schema with
    | array => rw [compileItems_kept ih hkind]
    | object => rw [compileProperties_kept ih hkind, isClosed_kept hkind]
    | string | integer | number | boolean => rfl

/-! ## Evaluated -/

/-- An expression text as the one property of a map. -/
def propertyText (text : List Char) : List Char :=
  '\x7b' :: Literal.quoted "" ++ ':' :: ' ' :: text ++ ['\x7d']

/-- The schema object that the node stands for which an expression text makes. -/
def evaluate (text : String) : Except ReadFault Json :=
  match readMap (propertyText text.toList) with
  | .ok ([(_, expression)], []) => .ok expression.node.toSchema
  | .ok _ => .error .malformed
  | .error fault => .error fault

/-- The text of an expression evaluates to what its node stands for. -/
theorem evaluate_write {e : Expression} (hreadable : e.Readable)
    (hfinite : ∀ v ∈ e.values, v.allFinite = true) :
    evaluate (String.ofList e.write) = .ok e.node.toSchema := by
  have htext : propertyText e.write = Expression.writeProperties [("", e)] ++ [] := by
    simp [propertyText, Expression.writeProperties, Expression.writeMore]
  have hvalues : ∀ v ∈ Expression.valuesOfProperties [("", e)], v.allFinite = true := by
    simpa [Expression.valuesOfProperties] using hfinite
  have hreadableOne : Expression.ReadableProperties [("", e)] := ⟨hreadable, trivial⟩
  rw [evaluate, String.toList_ofList, htext, readMap_writeProperties hreadableOne hvalues]

/-- A schema object whose emitted numbers are finite is compiled to a text that evaluates to a schema
object which is compiled to the same text, and so the text evaluates to it again. -/
theorem evaluate_evaluated {schema : SchemaObject}
    (hkeys : Data.distinctKeys (.map schema) = true)
    (hfinite : ∀ v ∈ (compile schema).values, v.allFinite = true) :
    ∃ again : SchemaObject, evaluate (expressionText schema) = .ok (.map again) ∧
      expressionText again = expressionText schema ∧
      evaluate (expressionText again) = .ok (.map again) := by
  have hreadable := readable_compile schema (Data.distinctKeys_map.1 hkeys).2
  have hfirst : evaluate (expressionText schema) = .ok (.map (kept schema)) := by
    rw [expressionText, evaluate_write hreadable hfinite, toSchema_compile, project_eq]
  have hsame : expressionText (kept schema) = expressionText schema := by
    rw [expressionText, expressionText, compile_kept]
  exact ⟨kept schema, hfirst, hsame, hsame ▸ hfirst⟩

/-- Texts of a type that is not known, with a keyword of numbers. -/
def tagSchema : SchemaObject := [
  ("pattern", .text "^a"), ("minimum", .int 2), ("type", .text "uuid")]

/-- An array or null, with a bound that is no number. -/
def tagsSchema : SchemaObject := [
  ("items", .map tagSchema), ("maxItems", .text "few"), ("minItems", .int 1),
  ("type", .list [.text "null", .text "array"])]

/-- A closed object that requires more than it has, and has a property that is no schema object. -/
def entrySchema : SchemaObject := [
  ("additionalProperties", .bool false), ("required", .list [.text "tags", .text "other"]),
  ("properties", .map [("tags", .map tagsSchema), ("odd", .bool true)]), ("type", .text "object")]

theorem compile_entrySchema : compile entrySchema
    = .mk .object
        [("tags", .mk .array []
          [.items (.mk .string [] [.set .pattern (.text "^a")]), .set .minimum (.int 1), .nullable,
            .required])]
        [.closed] := by
  have htag : compile tagSchema = .mk .string [] [.set .pattern (.text "^a")] := by
    rw [compile]
    rfl
  have htags : compile tagsSchema = .mk .array []
      [.items (.mk .string [] [.set .pattern (.text "^a")]), .set .minimum (.int 1), .nullable] := by
    rw [← htag, compile]
    show Expression.mk .array [] (compileItems tagsSchema ++ _) = _
    rw [compileItems_eq]
    rfl
  rw [compile]
  show Expression.mk .object (compileProperties entrySchema) _ = _
  rw [compileProperties_eq]
  show Expression.mk .object (compileFields ["tags", "other"] _) _ = _
  rw [compileFields, htags, compileFields, compileFields]
  · rfl
  · simp

theorem evaluate_evaluated_entry :
    ∃ again : SchemaObject, evaluate (expressionText entrySchema) = .ok (.map again) ∧
      expressionText again = expressionText entrySchema ∧
      evaluate (expressionText again) = .ok (.map again) := by
  have hfinite : ∀ v ∈ (compile entrySchema).values, v.allFinite = true := by
    rw [compile_entrySchema]
    decide
  exact evaluate_evaluated (by decide) hfinite

end ToolBindings.Schema
