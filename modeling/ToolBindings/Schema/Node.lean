import ToolBindings.Data.Basic

/-!
# Schema nodes

A schema under construction: its type, its keywords in the order in which they were first set, and
its parts. `Node.toSchema` is the schema object that a node stands for.
-/

namespace ToolBindings.Schema

/-- The types of schema nodes. -/
inductive Kind where
  | string
  | integer
  | number
  | boolean
  | array
  | object
deriving DecidableEq

namespace Kind

/-- All types. -/
def all : List Kind := [.string, .integer, .number, .boolean, .array, .object]

/-- The word for a type. -/
def word : Kind → String
  | .string => "string"
  | .integer => "integer"
  | .number => "number"
  | .boolean => "boolean"
  | .array => "array"
  | .object => "object"

/-- The type of a word. -/
def ofWord? (word : String) : Option Kind := all.find? (·.word = word)

/-- The keyword of a lower bound. -/
def minimumWord : Kind → String
  | .string => "minLength"
  | .array => "minItems"
  | _ => "minimum"

/-- The keyword of an upper bound. -/
def maximumWord : Kind → String
  | .string => "maxLength"
  | .array => "maxItems"
  | _ => "maximum"

end Kind

/-- What a node can be told about its values. -/
inductive Setting where
  | description
  | enum
  | minimum
  | maximum
  | pattern
  | format
deriving DecidableEq

/-- The keyword that a setting sets, which depends on the type for bounds. -/
def Setting.word (kind : Kind) : Setting → String
  | .description => "description"
  | .enum => "enum"
  | .minimum => kind.minimumWord
  | .maximum => kind.maximumWord
  | .pattern => "pattern"
  | .format => "format"

/-- A schema under construction. -/
inductive Node where
  | mk (kind : Kind) (required nullable : Bool) (keywords : List (String × Json))
      (items : Option Node) (properties : List (String × Node)) (closed : Bool)

namespace Node

/-- A node of a type, without anything else said. -/
def ofKind (kind : Kind) (properties : List (String × Node)) : Node :=
  .mk kind false false [] none properties false

def kind : Node → Kind
  | .mk kind .. => kind

/-- Whether the object around the node requires it. -/
def required : Node → Bool
  | .mk _ required .. => required

/-- Whether null is allowed beside the type. -/
def nullable : Node → Bool
  | .mk _ _ nullable .. => nullable

/-- The keywords set so far. -/
def keywords : Node → Entries String Json
  | .mk _ _ _ keywords .. => keywords

/-! ## Building -/

/-- Sets a keyword. -/
def set (setting : Setting) (value : Json) : Node → Node
  | .mk kind required nullable keywords items properties closed =>
    .mk kind required nullable (Entries.put (setting.word kind) value keywords) items properties
      closed

/-- Marks the node as required. -/
def require : Node → Node
  | .mk kind _ nullable keywords items properties closed =>
    .mk kind true nullable keywords items properties closed

/-- Allows null. -/
def allowNull : Node → Node
  | .mk kind required _ keywords items properties closed =>
    .mk kind required true keywords items properties closed

/-- Says what the items of an array are. -/
def setItems : (array items : Node) → Node
  | .mk kind required nullable keywords _ properties closed, items =>
    .mk kind required nullable keywords (some items) properties closed

/-- Forbids properties beyond the listed ones. -/
def close : Node → Node
  | .mk kind required nullable keywords items properties _ =>
    .mk kind required nullable keywords items properties true

/-! ## The schema object -/

/-- The word for the type, or the pair of it and `null`. -/
def typeValue (kind : Kind) (nullable : Bool) : Json :=
  if nullable then .list [.text kind.word, .text "null"] else .text kind.word

/-- The names of the required properties, or nothing if there are none. -/
def requiredField (properties : List (String × Node)) : List (String × Json) :=
  match properties.filterMap fun (name, node) => if node.required then some name else none with
  | [] => []
  | names => [("required", .list (names.map .text))]

mutual

/-- The schema object of a node: type, keywords, then the parts that belong to its type. -/
def toSchema : Node → Json
  | .mk kind _ nullable keywords items properties closed =>
    .map (("type", typeValue kind nullable) :: keywords ++
      match kind with
      | .array => itemsField items
      | .object =>
        ("properties", .map (toSchemas properties)) :: requiredField properties ++
          (if closed then [("additionalProperties", .bool false)] else [])
      | _ => [])

/-- The field for the items of an array. -/
def itemsField : Option Node → List (String × Json)
  | none => []
  | some node => [("items", toSchema node)]

/-- The schema objects of properties. -/
def toSchemas : List (String × Node) → List (String × Json)
  | [] => []
  | (name, node) :: rest => (name, toSchema node) :: toSchemas rest

end

/-- The schema object of a tool's arguments, from the nodes of its properties. -/
def argumentSchema (properties : List (String × Node)) : Json :=
  .map (("type", .text "object") :: ("properties", .map (toSchemas properties)) ::
    requiredField properties)

end Node
end ToolBindings.Schema
