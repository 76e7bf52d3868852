import ToolBindings.Data.Merge
import ToolBindings.Server.Invocation
import ToolBindings.Source.ToolModule

/-!
# Tool classes

A class that binds one tool of one server: what it says of the tool, and how a call of it is
answered. A call needs arguments by name; they may also come as a list of pairs.
-/

namespace ToolBindings

/-- A class for a tool, and the module that defines it. -/
structure ToolClass where
  className : String
  module : String
  server : String
  tool : String
  description : String
  inputSchema : Except ReadFault Json

namespace ToolClass

/-- A class that says nothing of its arguments. -/
def plain (className server tool description : String) : ToolClass :=
  { className, module := "", server, tool, description
    inputSchema := .ok (Schema.Node.argumentSchema []) }

/-- The class that a module of this dotted name defines. -/
def ofModule (module : String) (m : ToolModule) : ToolClass :=
  { className := m.className, module, server := m.server, tool := m.tool
    description := m.description, inputSchema := m.inputSchema }

/-- The full name of the tool. -/
def name (c : ToolClass) : String := c.server ++ "." ++ c.tool

/-- What the class shows itself as. -/
def display (c : ToolClass) : String := "<" ++ c.className ++ " " ++ c.name ++ ">"

/-! ## Arguments -/

/-- The two elements of a pair: of a list, of the characters of a text, or of the keys of a map. -/
def pair? : Json → Except Crash (ConfigKey × Json)
  | .list items => ofItems items
  | .text s => ofItems (s.toList.map fun c => .text (String.singleton c))
  | .map fields => ofItems ((Entries.keys fields).map .text)
  | _ => .error .wrongType
where
  /-- A key has to be a scalar. -/
  ofItems : List Json → Except Crash (ConfigKey × Json)
    | [key, value] =>
      match ConfigKey.ofValue? (ConfigValue.ofJson key) with
      | some key => .ok (key, value)
      | none => .error .wrongType
    | _ => .error .wrongValue

/-- Arguments by name. Keys that are no texts go by the text that stands for them. -/
def argumentsOf : Json → Except Crash (Entries String Json)
  | .map fields => .ok fields
  | .list items => do
    let pairs ← items.mapM pair?
    return (Entries.ofList pairs).map fun (key, value) => (key.toText, value)
  | .text s => if s = "" then .ok [] else .error .wrongValue
  | _ => .error .wrongType

/-! ## Calls -/

/-- The text of an answer: a text as it is, anything else as JSON. -/
def answerText : LooseJson → List CodePoint
  | .text s => s.points
  | answer => Json.printLoose .compact answer

/-- Calls the tool. -/
def handle (c : ToolClass) (project : Project) (arguments : Json) (connection : Connection) :
    Except Fault (List CodePoint) × Connection :=
  match argumentsOf arguments with
  | .error crash => (.error (.crash crash), connection)
  | .ok fields =>
    match project.invoke c.server c.tool (.map fields) connection with
    | (.ok answer, connection) => (.ok (answerText answer), connection)
    | (.error fault, connection) => (.error fault, connection)

end ToolClass
end ToolBindings
