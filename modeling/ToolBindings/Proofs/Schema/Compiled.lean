import ToolBindings.Proofs.Data.Entries
import ToolBindings.Proofs.Schema.Projection
import ToolBindings.Proofs.Schema.Reading

/-!
# What a compiled schema says

The expression for a schema object makes a node that stands for the projection of the object
(`toSchema_compile`), and it is an expression that can be read back (`readable_compile`).
-/

namespace ToolBindings.Schema

/-! ## Calls -/

namespace Expression

theorem applyAll_append (target : Node) (calls more : List Call) :
    applyAll target (calls ++ more) = applyAll (applyAll target calls) more := by
  induction calls generalizing target with
  | nil => rfl
  | cons next calls ih => exact ih (apply target next)

/-- One more call changes the node last. -/
theorem node_call (next : Call) (e : Expression) : (e.call next).node = apply e.node next := by
  obtain ⟨kind, properties, calls⟩ := e
  show applyAll _ (calls ++ [next]) = _
  rw [applyAll_append]
  rfl

end Expression

/-- What a node of one type alone can be told, each with the values that are told. -/
def typeSettings : Kind → List (Setting × (Json → Bool))
  | .string => [(.minimum, isInteger), (.maximum, isInteger), (.pattern, isText), (.format, isText)]
  | .integer | .number => [(.minimum, Data.isNumber), (.maximum, Data.isNumber)]
  | .array => [(.minimum, isInteger), (.maximum, isInteger)]
  | .boolean | .object => []

/-- What a node of a type can be told about its values. -/
def settings (kind : Kind) : List (Setting × (Json → Bool)) :=
  (.description, isNonemptyText) :: (.enum, isNonemptyList) :: typeSettings kind

/-- The call that tells a node the field of a setting, if the field is kept. -/
def tell (kind : Kind) (schema : SchemaObject) (setting : Setting) (accept : Json → Bool) :
    List Call :=
  match Entries.get? (setting.word kind) schema with
  | some value => if accept value then [.set setting value] else []
  | none => []

section

variable (kind : Kind) (schema : SchemaObject)

private theorem textCall_eq (setting : Setting) :
    textCall schema (setting.word kind) setting = tell kind schema setting isText := by
  unfold textCall tell
  cases Entries.get? (setting.word kind) schema with
  | none => rfl
  | some value => cases value <;> rfl

private theorem intCall_eq (setting : Setting) :
    intCall schema (setting.word kind) setting = tell kind schema setting isInteger := by
  unfold intCall tell
  cases Entries.get? (setting.word kind) schema with
  | none => rfl
  | some value => cases value <;> rfl

private theorem numberCall_eq (setting : Setting) :
    numberCall schema (setting.word kind) setting
      = tell kind schema setting Data.isNumber := by
  unfold numberCall tell
  cases Entries.get? (setting.word kind) schema with
  | none => rfl
  | some value => cases value <;> rfl

private theorem descriptionCall_eq :
    descriptionCall schema = tell kind schema .description isNonemptyText := by
  unfold descriptionCall tell
  rw [Setting.word]
  cases Entries.get? "description" schema with
  | none => rfl
  | some value =>
    cases value with
    | text s => by_cases hs : s = "" <;> simp [isNonemptyText, hs]
    | _ => rfl

private theorem enumCall_eq : enumCall schema = tell kind schema .enum isNonemptyList := by
  unfold enumCall tell
  rw [Setting.word]
  cases Entries.get? "enum" schema with
  | none => rfl
  | some value =>
    cases value with
    | list items => cases items <;> rfl
    | _ => rfl

private theorem kindCalls_eq : (kind : Kind) →
    kindCalls schema kind = (typeSettings kind).flatMap fun s => tell kind schema s.1 s.2
  | .string => by
    have hmin := intCall_eq .string schema .minimum
    have hmax := intCall_eq .string schema .maximum
    have hpattern := textCall_eq .string schema .pattern
    have hformat := textCall_eq .string schema .format
    simp only [Setting.word, Kind.minimumWord, Kind.maximumWord] at hmin hmax hpattern hformat
    simp [kindCalls, typeSettings, hmin, hmax, hpattern, hformat]
  | .integer => by
    have hmin := numberCall_eq .integer schema .minimum
    have hmax := numberCall_eq .integer schema .maximum
    simp only [Setting.word, Kind.minimumWord, Kind.maximumWord] at hmin hmax
    simp [kindCalls, typeSettings, hmin, hmax]
  | .number => by
    have hmin := numberCall_eq .number schema .minimum
    have hmax := numberCall_eq .number schema .maximum
    simp only [Setting.word, Kind.minimumWord, Kind.maximumWord] at hmin hmax
    simp [kindCalls, typeSettings, hmin, hmax]
  | .array => by
    have hmin := intCall_eq .array schema .minimum
    have hmax := intCall_eq .array schema .maximum
    simp only [Setting.word, Kind.minimumWord, Kind.maximumWord] at hmin hmax
    simp [kindCalls, typeSettings, hmin, hmax]
  | .boolean => rfl
  | .object => rfl

end

/-- The calls of a schema object tell the node what is kept of it. -/
theorem modifierCalls_eq (schema : SchemaObject) :
    modifierCalls schema
      = ((settings (kindOf schema)).flatMap fun s => tell (kindOf schema) schema s.1 s.2) ++
        (if isNullable schema then [.nullable] else []) := by
  unfold modifierCalls
  rw [descriptionCall_eq (kindOf schema), enumCall_eq (kindOf schema), kindCalls_eq, settings]
  simp

theorem keywordFields_eq (schema : SchemaObject) :
    keywordFields schema = (settings (kindOf schema)).flatMap fun s =>
      keep s.2 (s.1.word (kindOf schema)) schema := by
  unfold keywordFields
  cases kindOf schema <;> rfl

theorem mem_keys_keep {accept : Json → Bool} {key k : String} {schema : SchemaObject}
    (h : k ∈ Entries.keys (keep accept key schema)) : k = key := by
  unfold keep at h
  split at h
  · split at h
    · simpa using h
    · simp at h
  · simp at h

section

variable {kind : Kind} {required nullable closed : Bool} {items : Option Node}
variable {properties : List (String × Node)}

/-- A node that is told of a field keeps it behind the keywords that it has. -/
theorem applyAll_tell {keywords : List (String × Json)} {setting : Setting}
    (hnew : setting.word kind ∉ Entries.keys keywords) (accept : Json → Bool)
    (schema : SchemaObject) :
    Expression.applyAll (.mk kind required nullable keywords items properties closed)
        (tell kind schema setting accept)
      = .mk kind required nullable (keywords ++ keep accept (setting.word kind) schema) items
          properties closed := by
  unfold tell keep
  cases Entries.get? (setting.word kind) schema with
  | none => simp [Expression.applyAll]
  | some value =>
    by_cases haccept : accept value = true
    · simp only [haccept, if_true]
      show Node.mk .. = _
      rw [Entries.put_of_not_mem _ hnew]
    · simp [haccept, Expression.applyAll]

/-- A node that is told of several fields, each under its own keyword, keeps them in order. -/
theorem applyAll_flatMap_tell (schema : SchemaObject) (told : List (Setting × (Json → Bool)))
    (keywords : List (String × Json))
    (hnew : ∀ s ∈ told, s.1.word kind ∉ Entries.keys keywords)
    (hdistinct : (told.map fun s => s.1.word kind).Nodup) :
    Expression.applyAll (.mk kind required nullable keywords items properties closed)
        (told.flatMap fun s => tell kind schema s.1 s.2)
      = .mk kind required nullable
          (keywords ++ told.flatMap fun s => keep s.2 (s.1.word kind) schema) items properties
          closed := by
  induction told generalizing keywords with
  | nil => simp [Expression.applyAll]
  | cons s told ih =>
    rw [List.map_cons, List.nodup_cons] at hdistinct
    have hfirst := hnew s List.mem_cons_self
    rw [List.flatMap_cons, Expression.applyAll_append, applyAll_tell hfirst, ih]
    · rw [List.flatMap_cons, List.append_assoc]
    · intro next hnext hmem
      rw [Entries.keys_append, List.mem_append] at hmem
      rcases hmem with hmem | hmem
      · exact hnew next (List.mem_cons_of_mem s hnext) hmem
      · rw [← mem_keys_keep hmem] at hdistinct
        exact hdistinct.1 (List.mem_map.2 ⟨next, hnext, rfl⟩)
    · exact hdistinct.2

end

theorem nodup_settings (kind : Kind) : ((settings kind).map fun s => s.1.word kind).Nodup := by
  cases kind <;> decide

/-- The calls of a schema object on a node that was told nothing. -/
theorem applyAll_modifierCalls (schema : SchemaObject) {kind : Kind} (hkind : kindOf schema = kind)
    (required : Bool) (items : Option Node) (properties : List (String × Node)) (closed : Bool) :
    Expression.applyAll (.mk kind required false [] items properties closed) (modifierCalls schema)
      = .mk kind required (isNullable schema) (keywordFields schema) items properties closed := by
  subst hkind
  have hnew : ∀ s ∈ settings (kindOf schema),
      s.1.word (kindOf schema) ∉ Entries.keys ([] : List (String × Json)) := by
    simp
  rw [modifierCalls_eq, Expression.applyAll_append,
    applyAll_flatMap_tell schema (settings (kindOf schema)) [] hnew (nodup_settings _),
    ← keywordFields_eq, List.nil_append]
  cases isNullable schema <;> rfl

/-! ## Nodes of compiled schemas -/

section

variable (schema : SchemaObject)

theorem compileItems_eq : compileItems schema
    = match Entries.get? "items" schema with
      | some (.map fields) => [.items (compile fields)]
      | _ => [] := by
  rw [compileItems.eq_def]
  split
  · rename_i h
    rw [h]
  · split <;> simp_all

theorem compileProperties_eq : compileProperties schema
    = match Entries.get? "properties" schema with
      | some (.map fields) => compileFields (requiredNames schema) fields
      | _ => [] := by
  rw [compileProperties.eq_def]
  split
  · rename_i h
    rw [h]
  · split <;> simp_all

end

/-- The node for the items of an array. -/
def itemsNode (schema : SchemaObject) : Option Node :=
  match Entries.get? "items" schema with
  | some (.map fields) => some (compile fields).node
  | _ => none

theorem node_compile_array {schema : SchemaObject} (h : kindOf schema = .array) :
    (compile schema).node = .mk .array false (isNullable schema) (keywordFields schema)
      (itemsNode schema) [] false := by
  have hitems : Expression.applyAll (Node.ofKind .array []) (compileItems schema)
      = .mk .array false false [] (itemsNode schema) [] false := by
    rw [compileItems_eq, itemsNode]
    split <;> rfl
  rw [compile, h]
  show Expression.applyAll (Node.ofKind .array []) (compileItems schema ++ modifierCalls schema) = _
  rw [Expression.applyAll_append, hitems, applyAll_modifierCalls schema h]

theorem node_compile_object {schema : SchemaObject} (h : kindOf schema = .object) :
    (compile schema).node = .mk .object false (isNullable schema) (keywordFields schema) none
      (Expression.nodes (compileProperties schema)) (isClosed schema) := by
  have hclosed : Expression.applyAll
      (Node.ofKind .object (Expression.nodes (compileProperties schema)))
        (if isClosed schema then [.closed] else [])
      = .mk .object false false [] none (Expression.nodes (compileProperties schema))
          (isClosed schema) := by
    cases isClosed schema <;> rfl
  rw [compile, h]
  show Expression.applyAll _ (_ ++ modifierCalls schema) = _
  rw [Expression.applyAll_append, hclosed, applyAll_modifierCalls schema h]

theorem node_compile_of_ne {schema : SchemaObject} (harray : kindOf schema ≠ .array)
    (hobject : kindOf schema ≠ .object) :
    (compile schema).node = .mk (kindOf schema) false (isNullable schema) (keywordFields schema)
      none [] false := by
  have hcompile : compile schema = .mk (kindOf schema) [] (modifierCalls schema) := by
    rw [compile]
    split
    · contradiction
    · contradiction
    · rfl
  rw [hcompile]
  exact applyAll_modifierCalls schema rfl false none [] false

/-- Whether a property is required is said by the object around it. -/
theorem required_node_compile (schema : SchemaObject) :
    (compile schema).node.required = false := by
  by_cases harray : kindOf schema = .array
  · rw [node_compile_array harray, Node.required]
  · by_cases hobject : kindOf schema = .object
    · rw [node_compile_object hobject, Node.required]
    · rw [node_compile_of_ne harray hobject, Node.required]

theorem toSchema_require (node : Node) : node.require.toSchema = node.toSchema := by
  cases node
  rfl

theorem required_require (node : Node) : node.require.required = true := by
  cases node
  rfl

/-- The required properties are those whose names are listed. -/
theorem filterMap_required_compileFields (required : List String) (fields : List (String × Json)) :
    ((Expression.nodes (compileFields required fields)).filterMap fun (name, node) =>
        if node.required then some name else none)
      = (Entries.keys (projectFields fields)).filter (· ∈ required) := by
  induction fields with
  | nil => simp [compileFields, projectFields, Expression.nodes]
  | cons field fields ih =>
    obtain ⟨name, value⟩ := field
    cases value with
    | map schema =>
      rw [compileFields, projectFields, Expression.nodes, List.filterMap_cons, Entries.keys_cons,
        List.filter_cons]
      by_cases hname : name ∈ required
      · have hrequired : ((compile schema).call .required).node.required = true := by
          rw [Expression.node_call]
          exact required_require _
        simp only [hname, if_true, hrequired, ih, decide_true]
      · have hrequired := required_node_compile schema
        simp only [hname, if_false, hrequired, ih, decide_false, Bool.false_eq_true]
    | _ => simpa only [compileFields, projectFields] using ih

theorem requiredField_compileProperties (schema : SchemaObject) :
    Node.requiredField (Expression.nodes (compileProperties schema))
      = requiredFields (requiredNames schema) (projectProperties schema) := by
  rw [Node.requiredField, requiredFields, compileProperties_eq, projectProperties_eq]
  cases Entries.get? "properties" schema with
  | none => rfl
  | some value =>
    cases value with
    | map fields =>
      have hnames := filterMap_required_compileFields (requiredNames schema) fields
      cases hkeys : (Entries.keys (projectFields fields)).filter (· ∈ requiredNames schema) <;>
        simp only [hnames, hkeys]
    | _ => rfl

/-- Field by field. -/
theorem toSchemas_compileFields (required : List String) {fields : List (String × Json)}
    (h : ∀ name schema, (name, .map schema) ∈ fields →
      (compile schema).node.toSchema = project schema) :
    Node.toSchemas (Expression.nodes (compileFields required fields)) = projectFields fields := by
  induction fields with
  | nil => simp [compileFields, projectFields, Expression.nodes, Node.toSchemas]
  | cons field rest ih =>
    have hrest := ih fun name schema hmem => h name schema (.tail _ hmem)
    obtain ⟨name, value⟩ := field
    cases value with
    | map schema =>
      have hschema := h name schema (.head _)
      rw [compileFields, projectFields, Expression.nodes, Node.toSchemas, hrest, ← hschema]
      by_cases hname : name ∈ required
      · simp only [hname, if_true]
        rw [Expression.node_call]
        exact congrArg (fun v => (name, v) :: projectFields rest) (toSchema_require _)
      · simp only [hname, if_false]
    | null | bool | int | float | text | list =>
      simpa only [compileFields, projectFields] using hrest

section

variable {schema : SchemaObject}
  (h : ∀ inner, Encloses schema inner → (compile inner).node.toSchema = project inner)
include h

theorem itemsField_itemsNode : Node.itemsField (itemsNode schema) = projectItems schema := by
  rw [projectItems_eq, itemsNode]
  cases hitems : Entries.get? "items" schema with
  | none => rfl
  | some value =>
    cases value with
    | map inner => rw [Node.itemsField, h inner (.items hitems)]
    | _ => rfl

theorem toSchemas_compileProperties :
    Node.toSchemas (Expression.nodes (compileProperties schema)) = projectProperties schema := by
  rw [compileProperties_eq, projectProperties_eq]
  cases hproperties : Entries.get? "properties" schema with
  | none => rfl
  | some value =>
    cases value with
    | map fields =>
      exact toSchemas_compileFields _ fun name inner hmem => h inner (.property hproperties hmem)
    | _ => rfl

end

/-- The node that a schema object is compiled to stands for the projection of the object. -/
theorem toSchema_compile (schema : SchemaObject) :
    (compile schema).node.toSchema = project schema := by
  induction schema using Encloses.induction with
  | step schema ih =>
    by_cases harray : kindOf schema = .array
    · rw [node_compile_array harray, Node.toSchema, itemsField_itemsNode ih, project, harray]
    · by_cases hobject : kindOf schema = .object
      · have hrequired := requiredField_compileProperties schema
        rw [node_compile_object hobject, Node.toSchema, toSchemas_compileProperties ih, hrequired,
          project, hobject]
      · rw [node_compile_of_ne harray hobject, Node.toSchema, project]
        · cases hkind : kindOf schema with
          | array => exact absurd hkind harray
          | object => exact absurd hkind hobject
          | string | integer | number | boolean => rfl
        · exact harray
        · exact hobject

/-- The arguments of a tool with this input schema are its projection. -/
theorem argumentSchema_compileProperties (schema : SchemaObject) :
    Node.argumentSchema (Expression.nodes (compileProperties schema)) = projectArguments schema := by
  rw [Node.argumentSchema, toSchemas_compileProperties fun inner _ => toSchema_compile inner,
    requiredField_compileProperties]
  rfl

/-! ## Compiled expressions can be read back -/

namespace Expression

theorem readableCalls_iff {calls : List Call} :
    ReadableCalls calls ↔ ∀ call ∈ calls, ReadableCall call := by
  induction calls with
  | nil => simp [ReadableCalls]
  | cons call calls ih => simp [ReadableCalls, ih]

theorem readable_call {e : Expression} {next : Call} (he : e.Readable)
    (hnext : ReadableCall next) : (e.call next).Readable := by
  obtain ⟨kind, properties, calls⟩ := e
  obtain ⟨hkind, hproperties, hcalls⟩ := he
  refine ⟨hkind, hproperties, ?_⟩
  rw [readableCalls_iff] at hcalls ⊢
  intro call hcall
  rcases List.mem_append.1 hcall with hcall | hcall
  · exact hcalls call hcall
  · rw [List.mem_singleton.1 hcall]
    exact hnext

end Expression

section

open Expression

variable {schema : SchemaObject}

theorem readableCalls_modifierCalls (h : Data.distinctKeysFields schema = true) :
    ReadableCalls (modifierCalls schema) := by
  rw [readableCalls_iff, modifierCalls_eq]
  intro call hcall
  rcases List.mem_append.1 hcall with hcall | hcall
  · obtain ⟨s, -, hcall⟩ := List.mem_flatMap.1 hcall
    unfold tell at hcall
    split at hcall
    · rename_i value hvalue
      split at hcall
      · rw [List.mem_singleton.1 hcall]
        exact Data.distinctKeys_of_get? h hvalue
      · cases hcall
    · cases hcall
  · split at hcall
    · rw [List.mem_singleton.1 hcall]
      trivial
    · cases hcall

end

/-- Field by field. -/
theorem readableProperties_compileFields (required : List String) {fields : List (String × Json)}
    (hkeys : Data.distinctKeysFields fields = true)
    (h : ∀ name schema, (name, .map schema) ∈ fields → Data.distinctKeysFields schema = true →
      (compile schema).Readable) :
    Expression.ReadableProperties (compileFields required fields) := by
  induction fields with
  | nil =>
    rw [compileFields]
    trivial
  | cons field rest ih =>
    rw [Data.distinctKeysFields, Bool.and_eq_true] at hkeys
    have hrest := ih hkeys.2 fun name schema hmem => h name schema (.tail _ hmem)
    obtain ⟨name, value⟩ := field
    cases value with
    | map schema =>
      have hschema := h name schema (.head _) (Data.distinctKeys_map.1 hkeys.1).2
      rw [compileFields]
      refine ⟨?_, hrest⟩
      by_cases hname : name ∈ required
      · rw [if_pos hname]
        exact Expression.readable_call hschema trivial
      · rw [if_neg hname]
        exact hschema
    | null | bool | int | float | text | list =>
      simpa only [compileFields] using hrest

section

variable {schema : SchemaObject} (hkeys : Data.distinctKeysFields schema = true)
  (h : ∀ inner, Encloses schema inner → Data.distinctKeysFields inner = true →
    (compile inner).Readable)
include hkeys h

theorem readableCalls_compileItems : Expression.ReadableCalls (compileItems schema) := by
  rw [compileItems_eq]
  split
  · rename_i inner hitems
    have hinner := Data.distinctKeys_map.1 (Data.distinctKeys_of_get? hkeys hitems)
    exact ⟨h inner (.items hitems) hinner.2, trivial⟩
  · trivial

theorem readableProperties_compileProperties :
    Expression.ReadableProperties (compileProperties schema) := by
  rw [compileProperties_eq]
  split
  · rename_i fields hfields
    have hinner := Data.distinctKeys_map.1 (Data.distinctKeys_of_get? hkeys hfields)
    exact readableProperties_compileFields _ hinner.2
      fun name inner hmem => h inner (.property hfields hmem)
  · trivial

end

/-- The expression for a schema object can be read back. -/
theorem readable_compile (schema : SchemaObject) (h : Data.distinctKeysFields schema = true) :
    (compile schema).Readable := by
  induction schema using Encloses.induction with
  | step schema ih =>
    have hmodifiers := readableCalls_modifierCalls h
    rw [compile]
    split
    · have hitems := readableCalls_compileItems h ih
      refine ⟨Or.inl rfl, trivial, ?_⟩
      rw [Expression.readableCalls_iff, List.forall_mem_append] at *
      exact ⟨hitems, hmodifiers⟩
    · refine ⟨Or.inr rfl, readableProperties_compileProperties h ih, ?_⟩
      cases isClosed schema with
      | true => exact ⟨trivial, hmodifiers⟩
      | false => exact hmodifiers
    · exact ⟨Or.inl rfl, trivial, hmodifiers⟩

end ToolBindings.Schema
