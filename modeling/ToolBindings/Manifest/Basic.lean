import ToolBindings.Data.Loose
import ToolBindings.Data.Sorted
import ToolBindings.Json.Printer

/-!
# Manifests

The record of a server's tools that is kept on disk. `Manifest.ofTools` brings the tools of a reply
into canonical form: ordered by name, their argument schemas sorted by key at every level.
-/

namespace ToolBindings

/-- A tool in canonical form. -/
structure ManifestTool where
  name : String
  title : Option String
  description : String
  inputSchema : Entries String Json

/-- The tools of a server, and when they were asked for. -/
structure Manifest where
  server : String
  endpointVariable : Option String
  generatedAt : String
  tools : List ManifestTool

namespace ManifestTool

section

variable {τ : Type} [DecidableEq τ]

/-- The text of a field, if it is one. -/
def textField? (tool : Entries τ (Data τ τ)) (key : τ) : Option τ :=
  (Entries.get? key tool).bind Data.text?

/-- The argument schema of a tool in a reply, under either spelling of its key. -/
def schemaOf [IsText τ] (tool : Entries τ (Data τ τ)) : Entries τ (Data τ τ) :=
  match (Entries.get? (IsText.ofString "input_schema") tool).bind Data.map? with
  | some schema => schema
  | none => ((Entries.get? (IsText.ofString "inputSchema") tool).bind Data.map?).getD []

end

/-- A manifest can be written with the tool: what it takes of it holds no halves of pairs. -/
def isWritable (tool : Entries LooseText LooseJson) : Bool :=
  (["name", "title", "description"].all fun key =>
    (textField? tool (.ofString key)).all LooseText.isWhole) &&
  Data.isWholeFields (schemaOf tool)

/-- The canonical form of a tool in a reply. -/
def ofReply (tool : Entries String Json) : ManifestTool :=
  let name := (textField? tool "name").getD ""
  { name
    title := textField? tool "title"
    description := (textField? tool "description").getD name
    inputSchema := Text.sortedBy (·.1) (Data.sortedFields (schemaOf tool)) }

/-- The tool as data. -/
def toJson (tool : ManifestTool) : Json :=
  .map [
    ("name", .text tool.name),
    ("title", (tool.title.map .text).getD .null),
    ("description", .text tool.description),
    ("input_schema", .map tool.inputSchema)]

end ManifestTool

namespace Manifest

/-- The version of the form of manifests. -/
def version : Int := 1

/-- The manifest of the tools of a reply. -/
def ofTools (server : String) (endpointVariable : Option String)
    (tools : List (Entries String Json)) (generatedAt : String) : Manifest :=
  { server, endpointVariable, generatedAt
    tools := Text.sortedBy ManifestTool.name (tools.map ManifestTool.ofReply) }

/-- The manifest as data; an endpoint variable that is not set is left out. -/
def toJson (m : Manifest) : Json :=
  .map [
    ("version", .int version),
    ("server", .map (("slug", .text m.server) ::
      match m.endpointVariable with
      | some name => [("endpoint_env", .text name)]
      | none => [])),
    ("generated_at", .text m.generatedAt),
    ("tools", .list (m.tools.map ManifestTool.toJson))]

/-- The text of a manifest file. -/
def write (m : Manifest) : String := Json.print .indented m.toJson ++ "\n"

end Manifest
end ToolBindings
