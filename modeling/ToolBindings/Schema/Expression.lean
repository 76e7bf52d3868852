import ToolBindings.Literal.Printer
import ToolBindings.Schema.Node

/-!
# Schema expressions

An expression makes a node by naming its type and then telling it one thing after another. `node`
is the node that an expression makes, `write` its text in the generated source.
-/

namespace ToolBindings.Schema

mutual

/-- A type, the properties given to an object, and the calls on it in order. -/
inductive Expression where
  | mk (kind : Kind) (properties : List (String × Expression)) (calls : List Call)

/-- One thing told to a node. -/
inductive Call where
  | set (setting : Setting) (value : Json)
  | nullable
  | required
  | items (node : Expression)
  | closed

end

namespace Expression

/-- An expression without calls. -/
def ofKind (kind : Kind) : Expression := .mk kind [] []

/-- The expression with one more call. -/
def call (next : Call) : Expression → Expression
  | .mk kind properties calls => .mk kind properties (calls ++ [next])

/-! ## The node -/

mutual

/-- The node that an expression makes. -/
def node : Expression → Node
  | .mk kind properties calls => applyAll (Node.ofKind kind (nodes properties)) calls

/-- The nodes of properties. -/
def nodes : List (String × Expression) → List (String × Node)
  | [] => []
  | (name, expression) :: rest => (name, node expression) :: nodes rest

/-- A node after one call. -/
def apply (target : Node) : Call → Node
  | .set setting value => target.set setting value
  | .nullable => target.allowNull
  | .required => target.require
  | .items expression => target.setItems (node expression)
  | .closed => target.close

/-- A node after calls. -/
def applyAll (target : Node) : List Call → Node
  | [] => target
  | next :: rest => applyAll (apply target next) rest

end

/-! ## The text -/

/-- The method that makes a setting. -/
def settingMethod : Setting → String
  | .description => "description"
  | .enum => "enum"
  | .minimum => "min"
  | .maximum => "max"
  | .pattern => "pattern"
  | .format => "format"

/-- The setting that a method makes. -/
def ofSettingMethod? (method : String) : Option Setting :=
  [.description, .enum, .minimum, .maximum, .pattern, .format].find? fun setting =>
    settingMethod setting = method

/-- The name of the builder that makes nodes. -/
def builder : List Char := "schema".toList

/-- A call of a method, up to the argument. -/
def opened (method : String) : List Char := '.' :: method.toList ++ ['(']

mutual

/-- The text of an expression. -/
def write : Expression → List Char
  | .mk kind properties calls =>
    builder ++ opened kind.word ++ writeProperties properties ++ ')' :: writeCalls calls

/-- The properties in braces; nothing if there are none. -/
def writeProperties : List (String × Expression) → List Char
  | [] => []
  | (name, expression) :: rest =>
    '\x7b' :: Literal.quoted name ++ ':' :: ' ' :: write expression ++ writeMore rest ++ ['\x7d']

/-- The properties after the first, each after a comma. -/
def writeMore : List (String × Expression) → List Char
  | [] => []
  | (name, expression) :: rest =>
    ',' :: ' ' :: Literal.quoted name ++ ':' :: ' ' :: write expression ++ writeMore rest

/-- The text of a call. -/
def writeCall : Call → List Char
  | .set setting value => opened (settingMethod setting) ++ Literal.print value ++ [')']
  | .nullable => opened "nullable" ++ [')']
  | .required => opened "required" ++ [')']
  | .items expression => opened "items" ++ write expression ++ [')']
  | .closed => opened "without_additional_properties" ++ [')']

/-- The text of calls. -/
def writeCalls : List Call → List Char
  | [] => []
  | next :: rest => writeCall next ++ writeCalls rest

end

/-- The lines of a property map, each after `pad`. -/
def writeLines (pad : List Char) : List (String × Expression) → List Char
  | [] => []
  | (name, expression) :: rest =>
    pad ++ Literal.quoted name ++ ':' :: ' ' :: write expression ++ ',' :: '\n' ::
      writeLines pad rest

/-- The text of a whole property map, on lines of their own indented by four more than `indent`. -/
def writeMap (indent : Int) (properties : List (String × Expression)) : String :=
  if properties.isEmpty then "{}"
  else
    let pad := List.replicate (indent + 4).toNat ' '
    String.ofList ('\x7b' :: '\n' :: writeLines pad properties ++
      List.replicate indent.toNat ' ' ++ ['\x7d'])

end Expression
end ToolBindings.Schema
