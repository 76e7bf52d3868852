import ToolBindings.Schema.Compiled

/-!
# The part of a schema that is kept

`project` says, by recursion over a schema object, which part of it a schema node can say: its type,
the keywords that constrain the type, and the parts that are schema objects themselves. What is said
of every schema object is shown by induction over these parts (`Encloses.induction`).
-/

namespace ToolBindings.Schema

/-- The field under a key, if there is one with an accepted value. -/
def keep (accept : Json → Bool) (key : String) (schema : SchemaObject) : List (String × Json) :=
  match Entries.get? key schema with
  | some value => if accept value then [(key, value)] else []
  | none => []

def isInteger : Json → Bool
  | .int _ => true
  | _ => false

def isText : Json → Bool
  | .text _ => true
  | _ => false

def isNonemptyText : Json → Bool
  | .text s => s != ""
  | _ => false

def isNonemptyList : Json → Bool
  | .list (_ :: _) => true
  | _ => false

/-- The keywords that belong to a type alone, each with the values that it may have. -/
def typeKeywords : Kind → List (String × (Json → Bool))
  | .string =>
    [("minLength", isInteger), ("maxLength", isInteger), ("pattern", isText), ("format", isText)]
  | .integer | .number => [("minimum", Data.isNumber), ("maximum", Data.isNumber)]
  | .array => [("minItems", isInteger), ("maxItems", isInteger)]
  | .boolean | .object => []

/-- The keywords of a schema object that are kept. -/
def keywordFields (schema : SchemaObject) : List (String × Json) :=
  (("description", isNonemptyText) :: ("enum", isNonemptyList) ::
    typeKeywords (kindOf schema)).flatMap fun (key, accept) => keep accept key schema

/-- The names among `required` that are names of properties, in the order of the properties; no
field if there are none. -/
def requiredFields (required : List String) (properties : List (String × Json)) :
    List (String × Json) :=
  match (Entries.keys properties).filter (· ∈ required) with
  | [] => []
  | names => [("required", .list (names.map .text))]

mutual

/-- The part of a schema object that a node can say. -/
def project (schema : SchemaObject) : Json :=
  .map (("type", Node.typeValue (kindOf schema) (isNullable schema)) :: keywordFields schema ++
    match kindOf schema with
    | .array => projectItems schema
    | .object =>
      ("properties", .map (projectProperties schema)) ::
        requiredFields (requiredNames schema) (projectProperties schema) ++
          (if isClosed schema then [("additionalProperties", .bool false)] else [])
    | _ => [])
termination_by (sizeOf schema, 2)

/-- The items of an array, if they are a schema object. -/
def projectItems (schema : SchemaObject) : List (String × Json) :=
  match _h : Entries.get? "items" schema with
  | some (.map fields) => [("items", project fields)]
  | _ => []
termination_by (sizeOf schema, 1)
decreasing_by
  have := sizeOf_get?_lt ‹_›
  simp only [Data.map.sizeOf_spec] at this
  exact Prod.Lex.left _ _ (by omega)

/-- The properties that are schema objects. -/
def projectProperties (schema : SchemaObject) : List (String × Json) :=
  match _h : Entries.get? "properties" schema with
  | some (.map fields) => projectFields fields
  | _ => []
termination_by (sizeOf schema, 1)
decreasing_by
  have := sizeOf_get?_lt ‹_›
  simp only [Data.map.sizeOf_spec] at this
  exact Prod.Lex.left _ _ (by omega)

/-- Field by field. -/
def projectFields (fields : List (String × Json)) : List (String × Json) :=
  match fields with
  | [] => []
  | (name, .map schema) :: rest => (name, project schema) :: projectFields rest
  | _ :: rest => projectFields rest
termination_by (sizeOf fields, 0)
decreasing_by
  · apply Prod.Lex.left
    simp only [List.cons.sizeOf_spec, Prod.mk.sizeOf_spec, Data.map.sizeOf_spec]
    omega
  · apply Prod.Lex.left
    simp only [List.cons.sizeOf_spec, Prod.mk.sizeOf_spec, Data.map.sizeOf_spec]
    omega
  · apply Prod.Lex.left
    simp only [List.cons.sizeOf_spec]
    omega

end

/-- The argument schema that a tool keeps of its input schema. -/
def projectArguments (schema : SchemaObject) : Json :=
  .map (("type", .text "object") :: ("properties", .map (projectProperties schema)) ::
    requiredFields (requiredNames schema) (projectProperties schema))

section

variable (schema : SchemaObject)

theorem projectItems_eq : projectItems schema
    = match Entries.get? "items" schema with
      | some (.map fields) => [("items", project fields)]
      | _ => [] := by
  rw [projectItems.eq_def]
  split
  · rename_i h
    rw [h]
  · split <;> simp_all

theorem projectProperties_eq : projectProperties schema
    = match Entries.get? "properties" schema with
      | some (.map fields) => projectFields fields
      | _ => [] := by
  rw [projectProperties.eq_def]
  split
  · rename_i h
    rw [h]
  · split <;> simp_all

end

/-! ## Schema objects in others -/

/-- A schema object has another as its items or as one of its properties. -/
inductive Encloses (schema inner : SchemaObject) : Prop where
  | items (h : Entries.get? "items" schema = some (.map inner))
  | property {fields : List (String × Json)} {name : String}
      (h : Entries.get? "properties" schema = some (.map fields)) (hmem : (name, .map inner) ∈ fields)

namespace Encloses

theorem sizeOf_lt {schema inner : SchemaObject} (h : Encloses schema inner) :
    sizeOf inner < sizeOf schema := by
  cases h with
  | items h =>
    have hlt := sizeOf_get?_lt h
    simp only [Data.map.sizeOf_spec] at hlt
    omega
  | property h hmem =>
    have hfields := sizeOf_get?_lt h
    have hinner := List.sizeOf_lt_of_mem hmem
    simp only [Data.map.sizeOf_spec, Prod.mk.sizeOf_spec] at hfields hinner
    omega

/-- What a schema object has if all those in it have it, every schema object has. -/
@[elab_as_elim]
theorem induction {motive : SchemaObject → Prop}
    (step : ∀ schema, (∀ inner, Encloses schema inner → motive inner) → motive schema)
    (schema : SchemaObject) : motive schema :=
  step schema fun inner _ => induction step inner
termination_by sizeOf schema
decreasing_by exact sizeOf_lt ‹_›

end Encloses

end ToolBindings.Schema
