import ToolBindings.Schema.Compiled
import ToolBindings.Schema.Reading

/-!
# Modules of tools

The source module of one tool: a class with the tool's server, name and description as literals and
the property map of its argument schema. `ToolModule.write` is its text, `ToolModule.read?` reads
the text back, and `ToolModule.inputSchema` is the argument schema that the class gives.
-/

namespace ToolBindings

/-- The first line of every generated module. -/
def generatedHeader : String :=
  "\"\"\"Generated by mcpforge. Do not edit: run `mcpforge generate` instead.\"\"\"\n"

/-- What the module of a tool defines. The schema is read only when it is asked for, so a name in it
to which nothing is bound shows then. -/
structure ToolModule where
  className : String
  server : String
  tool : String
  description : String
  schema : Except ReadFault (List (String × Schema.Expression))

namespace ToolModule

/-- The text before the class name. -/
def opening : List Char :=
  (generatedHeader ++ "\nfrom mcpforge.tools.base import McpTool\n" ++
    "from mcpforge.tools.json_schema import JsonSchema\n\n\nclass ").toList

/-- The text between the class name and the first line that gives the class a text. -/
def afterName : List Char := "(McpTool):\n".toList

/-- The text before the property map. -/
def schemaHeading : List Char :=
  "\n    def schema(self, schema: JsonSchema):\n        return ".toList

/-- The text before the literal on a line that gives a class a text. -/
def assigned (name : String) : List Char := ("    " ++ name ++ " = ").toList

/-- One line that gives a class a text. -/
def assignment (name value : String) : List Char :=
  assigned name ++ Literal.quoted value ++ ['\n']

/-- The text of a module around the text of its property map. -/
def write (className server tool description schemaText : String) : String :=
  String.ofList (opening ++ className.toList ++ afterName ++ assignment "server_slug" server ++
    assignment "raw_tool_name" tool ++ assignment "description" description ++ schemaHeading ++
    schemaText.toList ++ ['\n'])

/-- Reads a line that gives a class a text. -/
def assignment? (name : String) (s : List Char) : Option (String × List Char) :=
  match Text.dropText? (assigned name) s with
  | none => none
  | some rest =>
    match Literal.read rest with
    | .ok (.text value, '\n' :: after) => some (value, after)
    | _ => none

/-- The property map at the end of a module. -/
def schemaOf (s : List Char) : Except ReadFault (List (String × Schema.Expression)) :=
  match Schema.readMap s with
  | .ok (properties, ['\n']) => .ok properties
  | .ok _ => .error .malformed
  | .error reason => .error reason

/-- Reads the text of a module. -/
def read? (source : String) : Option ToolModule := do
  let s ← Text.dropText? opening source.toList
  let className := s.takeWhile Literal.isNameChar
  let s ← Text.dropText? afterName (s.dropWhile Literal.isNameChar)
  let (server, s) ← assignment? "server_slug" s
  let (tool, s) ← assignment? "raw_tool_name" s
  let (description, s) ← assignment? "description" s
  let s ← Text.dropText? schemaHeading s
  some ⟨String.ofList className, server, tool, description, schemaOf s⟩

/-- The full name of the tool. -/
def name (m : ToolModule) : String := m.server ++ "." ++ m.tool

/-- The argument schema that the class gives. -/
def inputSchema (m : ToolModule) : Except ReadFault Json :=
  m.schema.map fun properties => Schema.Node.argumentSchema (Schema.Expression.nodes properties)

end ToolModule
end ToolBindings
