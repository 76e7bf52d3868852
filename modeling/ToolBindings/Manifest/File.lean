import ToolBindings.Fault
import ToolBindings.FileTree.Basic
import ToolBindings.Json.Lexer

/-!
# Manifest files

Manifests as they are read back. A file may have been changed since it was written, so that only an
object is asked of it, and of its tools only a name.
-/

namespace ToolBindings

/-- A tool that a manifest lists. -/
structure ListedTool where
  name : String
  description : String
  inputSchema : Entries String Json

namespace ListedTool

/-- The tool of an entry; an entry without a name makes none. -/
def ofItem? (entry : Json) : Option ListedTool := do
  let name ← (← entry.field? "name").text?
  let description := ((entry.field? "description").bind Data.text?).getD name
  let inputSchema := ((entry.field? "input_schema").bind Data.map?).getD []
  some { name, description, inputSchema }

end ListedTool

namespace ManifestFile

/-- The object in a manifest text. -/
def parse (path : Path) (octets : List UInt8) : Except ManifestFault (Entries String Json) :=
  match Text.Utf8.decode? octets with
  | none => .error (.notUtf8 path)
  | some text =>
    match Json.read? text with
    | none => .error (.notJson path)
    | some (.map fields) => .ok fields
    | some _ => .error (.notObject path)

/-- The object in a manifest file. A path that no file can have is no fault of a manifest. -/
def read (files : FileTree) (path : Path) : Except Fault (Entries String Json) :=
  match files.read path with
  | .error .embeddedNul => .error (.crash (.file .embeddedNul))
  | .error e => .error (.failure (.manifest (.unreadable path e)))
  | .ok octets => (parse path octets).mapError fun cause => .failure (.manifest cause)

/-- The tools that a manifest lists, in its order; none if what it has for tools is no list. -/
def tools? (fields : Entries String Json) : Option (List ListedTool) :=
  match Entries.get? "tools" fields with
  | none => some []
  | some (.list entries) => some (entries.filterMap ListedTool.ofItem?)
  | some _ => none

end ManifestFile
end ToolBindings
