import ToolBindings.Schema.Expression

/-!
# Compiled schemas

The expression for a schema object. What the expression says of a node is what a node can be told:
its type, description, allowed values, bounds, pattern, format, parts, and whether null is allowed.
Everything else in the schema object is left out.
-/

namespace ToolBindings.Schema

/-- A schema object. -/
abbrev SchemaObject := Entries String Json

/-- The first word in a list of types that is not `null`. -/
def firstType : List Json → Option String
  | [] => none
  | .text word :: rest => if word = "null" then firstType rest else some word
  | _ :: rest => firstType rest

/-- The type that a schema object declares: its word, or the first one of a list beside `null`, or
`string`. -/
def primaryType (schema : SchemaObject) : String :=
  match Entries.get? "type" schema with
  | some (.text word) => word
  | some (.list words) => (firstType words).getD "string"
  | _ => "string"

/-- Null is among the declared types, or `nullable` says so. -/
def isNullable (schema : SchemaObject) : Bool :=
  let listed :=
    match Entries.get? "type" schema with
    | some (.list words) => words.any fun word => word.text? == some "null"
    | _ => false
  let flagged :=
    match Entries.get? "nullable" schema with
    | some (.bool true) => true
    | _ => false
  listed || flagged

/-- The type of the node; a declared type that is none of the known ones makes a string. -/
def kindOf (schema : SchemaObject) : Kind := (Kind.ofWord? (primaryType schema)).getD .string

/-! ## Calls -/

/-- A setting whose value is a text. -/
def textCall (schema : SchemaObject) (key : String) (setting : Setting) : List Call :=
  match Entries.get? key schema with
  | some (.text s) => [.set setting (.text s)]
  | _ => []

/-- A setting whose value is an integer. -/
def intCall (schema : SchemaObject) (key : String) (setting : Setting) : List Call :=
  match Entries.get? key schema with
  | some (.int i) => [.set setting (.int i)]
  | _ => []

/-- A setting whose value is a number. -/
def numberCall (schema : SchemaObject) (key : String) (setting : Setting) : List Call :=
  match Entries.get? key schema with
  | some (.int i) => [.set setting (.int i)]
  | some (.float x) => [.set setting (.float x)]
  | _ => []

/-- A description that says something. -/
def descriptionCall (schema : SchemaObject) : List Call :=
  match Entries.get? "description" schema with
  | some (.text s) => if s = "" then [] else [.set .description (.text s)]
  | _ => []

/-- A list of allowed values that allows some. -/
def enumCall (schema : SchemaObject) : List Call :=
  match Entries.get? "enum" schema with
  | some (.list (value :: more)) => [.set .enum (.list (value :: more))]
  | _ => []

/-- What belongs to the type alone. -/
def kindCalls (schema : SchemaObject) : Kind → List Call
  | .string =>
    intCall schema "minLength" .minimum ++ intCall schema "maxLength" .maximum ++
      textCall schema "pattern" .pattern ++ textCall schema "format" .format
  | .integer | .number =>
    numberCall schema "minimum" .minimum ++ numberCall schema "maximum" .maximum
  | .array => intCall schema "minItems" .minimum ++ intCall schema "maxItems" .maximum
  | .boolean | .object => []

/-- The calls after those that give the node its parts. -/
def modifierCalls (schema : SchemaObject) : List Call :=
  descriptionCall schema ++ enumCall schema ++ kindCalls schema (kindOf schema) ++
    (if isNullable schema then [.nullable] else [])

/-- The names listed as required. -/
def requiredNames (schema : SchemaObject) : List String :=
  match Entries.get? "required" schema with
  | some (.list names) => names.filterMap Data.text?
  | _ => []

/-- Properties beyond the listed ones are forbidden. -/
def isClosed (schema : SchemaObject) : Bool :=
  match Entries.get? "additionalProperties" schema with
  | some (.bool false) => true
  | _ => false

/-! ## Expressions -/

/-- A field's value is smaller than the fields. -/
theorem sizeOf_get?_lt {key : String} {fields : List (String × Json)} {value : Json}
    (h : Entries.get? key fields = some value) : sizeOf value < sizeOf fields := by
  induction fields with
  | nil => simp [Entries.get?] at h
  | cons field rest ih =>
    obtain ⟨k, v⟩ := field
    simp only [Entries.get?] at h
    split at h
    · simp only [Option.some.injEq] at h
      subst h
      simp only [List.cons.sizeOf_spec, Prod.mk.sizeOf_spec]
      omega
    · have := ih h
      simp only [List.cons.sizeOf_spec, Prod.mk.sizeOf_spec]
      omega

mutual

/-- The expression for a schema object. -/
def compile (schema : SchemaObject) : Expression :=
  match kindOf schema with
  | .array => .mk .array [] (compileItems schema ++ modifierCalls schema)
  | .object =>
    .mk .object (compileProperties schema)
      ((if isClosed schema then [.closed] else []) ++ modifierCalls schema)
  | kind => .mk kind [] (modifierCalls schema)
termination_by (sizeOf schema, 2)

/-- The call that says what the items of an array are. -/
def compileItems (schema : SchemaObject) : List Call :=
  match _h : Entries.get? "items" schema with
  | some (.map fields) => [.items (compile fields)]
  | _ => []
termination_by (sizeOf schema, 1)
decreasing_by
  have := sizeOf_get?_lt ‹_›
  simp only [Data.map.sizeOf_spec] at this
  exact Prod.Lex.left _ _ (by omega)

/-- The expressions of the properties that are schema objects, in their order. -/
def compileProperties (schema : SchemaObject) : List (String × Expression) :=
  match _h : Entries.get? "properties" schema with
  | some (.map fields) => compileFields (requiredNames schema) fields
  | _ => []
termination_by (sizeOf schema, 1)
decreasing_by
  have := sizeOf_get?_lt ‹_›
  simp only [Data.map.sizeOf_spec] at this
  exact Prod.Lex.left _ _ (by omega)

/-- The expressions of a list of properties, those named in `required` marked so. -/
def compileFields (required : List String) (fields : List (String × Json)) :
    List (String × Expression) :=
  match fields with
  | [] => []
  | (name, .map schema) :: rest =>
    let expression := compile schema
    let expression := if name ∈ required then expression.call .required else expression
    (name, expression) :: compileFields required rest
  | _ :: rest => compileFields required rest
termination_by (sizeOf fields, 0)
decreasing_by
  · apply Prod.Lex.left
    simp only [List.cons.sizeOf_spec, Prod.mk.sizeOf_spec, Data.map.sizeOf_spec]
    omega
  · apply Prod.Lex.left
    simp only [List.cons.sizeOf_spec]
    omega
  · apply Prod.Lex.left
    simp only [List.cons.sizeOf_spec]
    omega

end

/-- The text of the expression for a schema object. -/
def expressionText (schema : SchemaObject) : String := String.ofList (compile schema).write

/-- The text of the property map of a tool's argument schema. -/
def propertyMapText (schema : SchemaObject) (indent : Int) : String :=
  Expression.writeMap indent (compileProperties schema)

end ToolBindings.Schema
