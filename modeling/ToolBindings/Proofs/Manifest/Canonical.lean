import ToolBindings.Proofs.Data.Reordered
import ToolBindings.Proofs.Manifest.FromReply

/-!
# Manifests are canonical

The text of a manifest does not depend on how a reply happens to order its tools and their keys
(`write_of_sameTools`), and the manifest that is made of the tools of its own file is the same text
(`write_of_read`). Tools whose normalized names are equal stay in the order of the reply, so that
this order alone is kept.
-/

namespace ToolBindings

/-! ## Tools -/

namespace ManifestTool

section

variable {tool again : Entries String Json}
variable (h : Data.Reordered (.map tool) (.map again))

include h

/-- Which of the two keys the schema is under does not depend on the order of keys. -/
theorem schemaOf_of_reordered (hkeys : (Entries.keys tool).Nodup) :
    Data.Reordered (.map (schemaOf tool)) (.map (schemaOf again)) := by
  have hsnake := h.map? hkeys "input_schema"
  have hcamel := h.map? hkeys "inputSchema"
  rw [schemaOf_json, schemaOf_json]
  generalize (Entries.get? "input_schema" tool).bind Data.map? = snake,
    (Entries.get? "input_schema" again).bind Data.map? = snake' at hsnake ⊢
  generalize (Entries.get? "inputSchema" tool).bind Data.map? = camel,
    (Entries.get? "inputSchema" again).bind Data.map? = camel' at hcamel ⊢
  cases hsnake with
  | some hschema => exact hschema
  | none =>
    cases hcamel with
    | some hschema => exact hschema
    | none => exact ⟨[], [], rfl, rfl, .nil⟩

/-- The canonical form of a tool does not depend on the order of keys. -/
theorem ofReply_of_reordered (hkeys : (Data.map tool).distinctKeys = true) :
    ofReply tool = ofReply again := by
  have hnodup := (Data.distinctKeys_map.1 hkeys).1
  have hschema := Data.sorted_of_reordered (schemaOf_of_reordered h hnodup)
    (distinctKeys_schemaOf hkeys)
  have hfields : Text.sortedBy (·.1) (Data.sortedFields (schemaOf tool))
      = Text.sortedBy (·.1) (Data.sortedFields (schemaOf again)) := Data.map.inj hschema
  have htext : textField? tool = textField? again := funext (h.text?_eq hnodup)
  rw [ofReply, ofReply, hfields, htext]

end

/-- The fields of a tool in a manifest. -/
def fields (tool : ManifestTool) : Entries String Json := (tool.toJson.map?).getD []

theorem keysSorted_ofReply (tool : Entries String Json) :
    Data.keysSorted (.map (ofReply tool).inputSchema) :=
  Data.keysSorted_sorted (.map (schemaOf tool))

/-- A tool with a sorted schema is the canonical form of its own fields. -/
theorem ofReply_fields {tool : ManifestTool} (h : Data.keysSorted (.map tool.inputSchema)) :
    ofReply tool.fields = tool := by
  have hschema : Text.sortedBy (·.1) (Data.sortedFields tool.inputSchema) = tool.inputSchema :=
    Data.map.inj (Data.sorted_of_keysSorted h)
  obtain ⟨name, title, description, inputSchema⟩ := tool
  have hfields : ofReply (fields ⟨name, title, description, inputSchema⟩)
      = ⟨name, ((title.map Data.text).getD (.null : Json)).text?, description,
          Text.sortedBy (·.1) (Data.sortedFields inputSchema)⟩ := rfl
  rw [hfields, hschema]
  cases title <;> rfl

end ManifestTool

/-! ## Lists of tools -/

/-- The same tools but for the order of keys, in an order in which those of one name come as they
came. -/
def SameTools (tools again : List (Entries String Json)) : Prop :=
  ∃ reordered : List (Entries String Json), Data.ReorderedList (tools.map .map) (reordered.map .map) ∧
    reordered.Perm again ∧
    ∀ name, reordered.filter (ReplyTool.name · == name) = again.filter (ReplyTool.name · == name)

namespace Manifest

theorem map_ofReply_of_reordered {tools again : List (Entries String Json)}
    (htools : ∀ tool ∈ tools, (Data.map tool).distinctKeys = true)
    (h : Data.ReorderedList (tools.map .map) (again.map .map)) :
    tools.map ManifestTool.ofReply = again.map ManifestTool.ofReply := by
  induction tools generalizing again with
  | nil =>
    rw [List.map_eq_nil_iff.1 h]
  | cons tool tools ih =>
    obtain ⟨item, rest, hcons, hitem, hrest⟩ := h
    cases again with
    | nil => cases hcons
    | cons tool' again =>
      obtain ⟨rfl, rfl⟩ := List.cons.inj hcons
      rw [List.forall_mem_cons] at htools
      rw [List.map_cons, List.map_cons, ManifestTool.ofReply_of_reordered hitem htools.1,
        ih htools.2 hrest]

/-- Canonical forms of one name, in order, are those of the tools of this name. -/
theorem filter_map_ofReply (tools : List (Entries String Json)) (name : String) :
    (tools.map ManifestTool.ofReply).filter (ManifestTool.name · == name)
      = (tools.filter (ReplyTool.name · == name)).map ManifestTool.ofReply := by
  have hname : (fun tool => (ManifestTool.ofReply tool).name == name)
      = (ReplyTool.name · == name) := funext fun tool => by rw [ReplyTool.name_ofReply]
  rw [List.filter_map]
  exact congrArg (fun p => (tools.filter p).map ManifestTool.ofReply) hname

variable (server : String) (endpointVariable : Option String) (generatedAt : String)

/-- The text of a manifest depends neither on the order of keys, at any depth, nor on the order of
tools whose names differ. -/
theorem write_of_sameTools {tools again : List (Entries String Json)}
    (htools : ∀ tool ∈ tools, (Data.map tool).distinctKeys = true) (h : SameTools tools again) :
    (ofTools server endpointVariable tools generatedAt).write
      = (ofTools server endpointVariable again generatedAt).write := by
  obtain ⟨reordered, hkeys, -, halike⟩ := h
  have hsorted : Text.sortedBy ManifestTool.name (reordered.map ManifestTool.ofReply)
      = Text.sortedBy ManifestTool.name (again.map ManifestTool.ofReply) := by
    refine Text.sortedBy_eq_of_filter fun name => ?_
    rw [filter_map_ofReply, filter_map_ofReply, halike]
  rw [ofTools, ofTools, map_ofReply_of_reordered htools hkeys, hsorted]

/-- Two tools, one with a map in a list in its schema. -/
def nestedTools : List (Entries String Json) :=
  [[("name", .text "search"), ("inputSchema", .map [("type", .text "object"),
      ("anyOf", .list [.map [("title", .text "q"), ("minLength", .int 1)]])])],
    [("name", .text "rate")]]

/-- The same tools, their order and that of all keys turned round. -/
def turnedTools : List (Entries String Json) :=
  [[("name", .text "rate")],
    [("inputSchema", .map [
        ("anyOf", .list [.map [("minLength", .int 1), ("title", .text "q")]]),
        ("type", .text "object")]), ("name", .text "search")]]

/-- Two fields change places. -/
private theorem reordered_swap {key key' : String} {v w v' w' : Json} (hv : Data.Reordered v v')
    (hw : Data.Reordered w w') :
    Data.Reordered (.map [(key, v), (key', w)]) (.map [(key', w'), (key, v')]) :=
  ⟨_, _, rfl, ⟨v', _, rfl, hv, w', [], rfl, hw, rfl⟩, .swap _ _ _⟩

theorem sameTools_turnedTools : SameTools nestedTools turnedTools := by
  have hinner : Data.Reordered (.map [("title", .text "q"), ("minLength", .int 1)])
      (.map [("minLength", .int 1), ("title", .text "q")]) := reordered_swap rfl rfl
  have hschema : Data.Reordered
      (.map [("type", .text "object"),
        ("anyOf", .list [.map [("title", .text "q"), ("minLength", .int 1)]])])
      (.map [("anyOf", .list [.map [("minLength", .int 1), ("title", .text "q")]]),
        ("type", .text "object")]) :=
    reordered_swap rfl ⟨_, rfl, _, _, rfl, hinner, rfl⟩
  have hrate : Data.Reordered (.map [("name", .text "rate")]) (.map [("name", .text "rate")]) :=
    ⟨_, _, rfl, ⟨_, _, rfl, rfl, rfl⟩, .refl _⟩
  refine ⟨turnedTools.reverse, ?_, List.reverse_perm _, fun name => ?_⟩
  · exact ⟨_, _, rfl, reordered_swap rfl hschema, _, _, rfl, hrate, rfl⟩
  · -- the names differ, so that no name keeps both
    by_cases hname : name = "rate"
    · subst hname
      rfl
    · have hnot : (ReplyTool.name [("name", .text "rate")] == name) = false :=
        beq_false_of_ne (Ne.symm hname)
      simp only [turnedTools, List.reverse_cons, List.reverse_nil, List.nil_append,
        List.cons_append, List.filter_cons, List.filter_nil, hnot]
      rfl

theorem write_nestedTools_eq_turnedTools :
    (∀ tool ∈ nestedTools, (Data.map tool).distinctKeys = true) ∧
      SameTools nestedTools turnedTools ∧
      (ofTools "crm" none nestedTools "2026-01-01T00:00:00Z").write
        = (ofTools "crm" none turnedTools "2026-01-01T00:00:00Z").write := by
  have hkeys : ∀ tool ∈ nestedTools, (Data.map tool).distinctKeys = true := by decide
  exact ⟨hkeys, sameTools_turnedTools,
    write_of_sameTools "crm" none "2026-01-01T00:00:00Z" hkeys sameTools_turnedTools⟩

/-- The tools of a manifest make the same manifest again. -/
theorem ofTools_fields (tools : List (Entries String Json)) :
    ofTools server endpointVariable
        ((ofTools server endpointVariable tools generatedAt).tools.map ManifestTool.fields)
        generatedAt
      = ofTools server endpointVariable tools generatedAt := by
  have hsame : ((ofTools server endpointVariable tools generatedAt).tools.map
      ManifestTool.fields).map ManifestTool.ofReply
      = (ofTools server endpointVariable tools generatedAt).tools := by
    rw [List.map_map, List.map_congr_left, List.map_id]
    intro tool htool
    rw [ofTools, Text.mem_sortedBy] at htool
    obtain ⟨entry, -, rfl⟩ := List.mem_map.1 htool
    exact ManifestTool.ofReply_fields (ManifestTool.keysSorted_ofReply entry)
  have hsorted : Text.sortedBy ManifestTool.name
      (ofTools server endpointVariable tools generatedAt).tools
      = (ofTools server endpointVariable tools generatedAt).tools :=
    Text.sortedBy_of_pairwise (Text.pairwise_sortedBy _ _)
  rw [ofTools, hsame, hsorted]
  rfl

/-- A manifest file reads as the manifest, with the keys in the order in which they were written,
and the tools that it lists make the same text again. -/
theorem write_of_read {tools : List (Entries String Json)}
    (htools : ∀ tool ∈ tools, (Data.map tool).distinctKeys = true) {files : FileTree} {path : Path}
    (hfile : files.read path = .ok (Text.Utf8.encode
      (ofTools server endpointVariable tools generatedAt).write)) :
    ∃ fields again, ManifestFile.read files path = .ok fields ∧
      Data.map fields = (ofTools server endpointVariable tools generatedAt).toJson ∧
      Entries.get? "tools" fields = some (.list (again.map .map)) ∧
      (ofTools server endpointVariable again generatedAt).write
        = (ofTools server endpointVariable tools generatedAt).write := by
  obtain ⟨fields, hjson, hread⟩ := read_ofTools server endpointVariable generatedAt htools hfile
  refine ⟨fields, (ofTools server endpointVariable tools generatedAt).tools.map
    ManifestTool.fields, hread, hjson, ?_, ?_⟩
  · cases hjson
    rw [List.map_map]
    rfl
  · rw [ofTools_fields]

/-- A tool whose schema has numbers that are not finite, a large integer and a map in a list. -/
def ratingTools : List (Entries String Json) :=
  [[("inputSchema", .map [("minimum", .float .nan),
      ("enum", .list [.map [("upper", .float (.infinite false)),
        ("lower", .int (-100000000000000000000))]])])]]

/-- A workspace's files: the manifest of these tools alone. -/
def ratingFiles : FileTree :=
  ⟨[(["crm.json"], .file (Text.Utf8.encode
    (ofTools "crm" (some "CRM_URL") ratingTools "2026-01-01T00:00:00Z").write))], []⟩

theorem write_of_read_ratingFiles :
    (∀ tool ∈ ratingTools, (Data.map tool).distinctKeys = true) ∧
      ratingFiles.read (.ofString "crm.json") = .ok (Text.Utf8.encode
        (ofTools "crm" (some "CRM_URL") ratingTools "2026-01-01T00:00:00Z").write) ∧
      ∃ fields again, ManifestFile.read ratingFiles (.ofString "crm.json") = .ok fields ∧
        Data.map fields
          = (ofTools "crm" (some "CRM_URL") ratingTools "2026-01-01T00:00:00Z").toJson ∧
        Entries.get? "tools" fields = some (.list (again.map .map)) ∧
        (ofTools "crm" (some "CRM_URL") again "2026-01-01T00:00:00Z").write
          = (ofTools "crm" (some "CRM_URL") ratingTools "2026-01-01T00:00:00Z").write := by
  have hkeys : ∀ tool ∈ ratingTools, (Data.map tool).distinctKeys = true := by decide
  have hfile := read_alone (Text.Utf8.encode
    (ofTools "crm" (some "CRM_URL") ratingTools "2026-01-01T00:00:00Z").write)
  exact ⟨hkeys, hfile,
    write_of_read "crm" (some "CRM_URL") "2026-01-01T00:00:00Z" hkeys hfile⟩

end Manifest
end ToolBindings
