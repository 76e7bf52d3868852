import ToolBindings.Manifest.File
import ToolBindings.Proofs.Data.Sorted
import ToolBindings.Proofs.Json.Reading
import ToolBindings.Proofs.Text.Utf8
import ToolBindings.Manifest.Basic

/-!
# Manifests read back

The text of a manifest is read as the manifest: every tool is listed with the name, the description
and the argument schema that it was written with.
-/

namespace ToolBindings

namespace ManifestTool

/-- The tool as a manifest file lists it. -/
def listed (tool : ManifestTool) : ListedTool := ⟨tool.name, tool.description, tool.inputSchema⟩

theorem ofItem?_toJson (tool : ManifestTool) : ListedTool.ofItem? tool.toJson = some tool.listed := by
  rfl

theorem distinctKeys_toJson {tool : ManifestTool}
    (h : (Data.map tool.inputSchema).distinctKeys = true) : tool.toJson.distinctKeys = true := by
  have htitle : ((tool.title.map Data.text).getD .null : Json).distinctKeys = true := by
    cases tool.title <;> rfl
  rw [toJson, Data.distinctKeys_map, Data.distinctKeysFields_iff]
  refine ⟨by simp, ?_⟩
  simp only [List.forall_mem_cons]
  exact ⟨rfl, htitle, rfl, h, List.forall_mem_nil _⟩

theorem schemaOf_json (tool : Entries String Json) :
    schemaOf tool = ((Entries.get? "input_schema" tool).bind Data.map?).getD
      (((Entries.get? "inputSchema" tool).bind Data.map?).getD []) := by
  rw [schemaOf, IsText.ofString_string, IsText.ofString_string]
  cases (Entries.get? "input_schema" tool).bind Data.map? <;> rfl

/-- The argument schema of a tool in a reply has distinct keys where the reply has. -/
theorem distinctKeys_schemaOf {tool : Entries String Json}
    (h : (Data.map tool).distinctKeys = true) : (Data.map (schemaOf tool)).distinctKeys = true := by
  rw [schemaOf_json]
  cases hsnake : (Entries.get? "input_schema" tool).bind Data.map? with
  | some schema => exact Data.distinctKeys_of_mapField h hsnake
  | none =>
    cases hcamel : (Entries.get? "inputSchema" tool).bind Data.map? with
    | none => rfl
    | some schema => exact Data.distinctKeys_of_mapField h hcamel

/-- The canonical form of a tool has distinct keys where the reply has. -/
theorem distinctKeys_ofReply {tool : Entries String Json}
    (h : (Data.map tool).distinctKeys = true) :
    (Data.map (ofReply tool).inputSchema).distinctKeys = true :=
  Data.distinctKeys_sorted (.map (schemaOf tool)) (distinctKeys_schemaOf h)

end ManifestTool

namespace Manifest

theorem distinctKeys_toJson {m : Manifest}
    (h : ∀ tool ∈ m.tools, (Data.map tool.inputSchema).distinctKeys = true) :
    m.toJson.distinctKeys = true := by
  have htools : Data.distinctKeysList (m.tools.map ManifestTool.toJson) = true := by
    rw [Data.distinctKeysList_iff]
    intro v hv
    obtain ⟨tool, htool, rfl⟩ := List.mem_map.1 hv
    exact ManifestTool.distinctKeys_toJson (h tool htool)
  rw [toJson, Data.distinctKeys_map, Data.distinctKeysFields_iff]
  refine ⟨by simp, ?_⟩
  simp only [List.forall_mem_cons]
  refine ⟨rfl, ?_, rfl, htools, List.forall_mem_nil _⟩
  cases m.endpointVariable <;> rfl

/-- The octets of a manifest's text are read as the manifest. -/
theorem parse_write (path : Path) {m : Manifest}
    (h : ∀ tool ∈ m.tools, (Data.map tool.inputSchema).distinctKeys = true) :
    ∃ fields, Data.map fields = m.toJson ∧
      ManifestFile.parse path (Text.Utf8.encode m.write) = .ok fields := by
  have hread : Json.read? m.write = some m.toJson :=
    Json.read?_print Json.Style.isReadable_indented (distinctKeys_toJson h) ['\n']
      (List.all_eq_true.1 rfl)
  rw [ManifestFile.parse, Text.Utf8.decode?_encode]
  simp only [hread]
  exact ⟨_, rfl, rfl⟩

/-- A manifest lists its tools. -/
theorem tools?_of_toJson {m : Manifest} {fields : Entries String Json}
    (h : Data.map fields = m.toJson) :
    ManifestFile.tools? fields = some (m.tools.map ManifestTool.listed) := by
  have hitems : (m.tools.map ManifestTool.toJson).filterMap ListedTool.ofItem?
      = m.tools.map ManifestTool.listed := by
    have hlisted : ListedTool.ofItem? ∘ ManifestTool.toJson = some ∘ ManifestTool.listed :=
      funext ManifestTool.ofItem?_toJson
    rw [List.filterMap_map, hlisted, List.filterMap_eq_map]
  cases h
  exact congrArg some hitems

/-- A file with the text of a manifest is read as the manifest. -/
theorem read_write {m : Manifest}
    (h : ∀ tool ∈ m.tools, (Data.map tool.inputSchema).distinctKeys = true) {files : FileTree}
    {path : Path} (hfile : files.read path = .ok (Text.Utf8.encode m.write)) :
    ∃ fields, Data.map fields = m.toJson ∧ ManifestFile.read files path = .ok fields := by
  obtain ⟨fields, hjson, hparse⟩ := parse_write path h
  refine ⟨fields, hjson, ?_⟩
  rw [ManifestFile.read, hfile]
  dsimp only
  rw [hparse]
  rfl

/-- So is a file with the text of a reply's manifest. -/
theorem read_ofTools (server : String) (endpointVariable : Option String) (generatedAt : String)
    {tools : List (Entries String Json)}
    (htools : ∀ tool ∈ tools, (Data.map tool).distinctKeys = true) {files : FileTree} {path : Path}
    (hfile : files.read path = .ok (Text.Utf8.encode
      (ofTools server endpointVariable tools generatedAt).write)) :
    ∃ fields, Data.map fields = (ofTools server endpointVariable tools generatedAt).toJson ∧
      ManifestFile.read files path = .ok fields := by
  refine read_write (fun tool htool => ?_) hfile
  rw [ofTools, Text.mem_sortedBy] at htool
  obtain ⟨entry, hentry, rfl⟩ := List.mem_map.1 htool
  exact ManifestTool.distinctKeys_ofReply (htools entry hentry)

end Manifest
end ToolBindings
