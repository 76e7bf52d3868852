import ToolBindings.Proofs.Command.Loading
import ToolBindings.Proofs.Data.Loose
import ToolBindings.Proofs.Manifest.ReadBack
import ToolBindings.Rpc.Client

/-!
# From a reply to definitions

The definitions that a generation loads from the manifest of a reply are the objects among the tools
of the reply, each once: ordered by name, those of one name in the order of the reply, with the
argument schema of the reply in ascending key order. What a server lists is taken as it is shown,
which makes no difference to which tools there are (`toolsOf_shownMap`).
-/

namespace ToolBindings

/-! ## Tools of replies -/

/-- The tools of a result as they are shown are those of the result as that is shown. -/
theorem Rpc.toolsOf_shownMap {result : Entries LooseText LooseJson}
    (h : (Entries.keys result).Nodup) :
    toolsOf (Data.shownMap result) = (toolsOf result).map (·.map Data.shownMap) := by
  have hget : Entries.get? (IsText.ofString "tools") (Data.shownMap result)
      = (Entries.get? (IsText.ofString "tools") result).map Data.shown :=
    Data.get?_shownMap (by decide) h
  rw [toolsOf, toolsOf, hget]
  cases Entries.get? (IsText.ofString "tools") result with
  | none => rfl
  | some tools =>
    cases tools with
    | list items =>
      show Except.ok ((Data.shownList items).filterMap Data.map?) = _
      rw [Data.filterMap_shownList]
      rfl
    | _ => rfl

namespace ReplyTool

/-- The objects among the tools of a result. -/
def objects (result : Entries String Json) : List (Entries String Json) :=
  match Entries.get? "tools" result with
  | some (.list items) => items.filterMap Data.map?
  | _ => []

/-- The name of a tool in a reply; empty if it has none. -/
def name (tool : Entries String Json) : String :=
  match Entries.get? "name" tool with
  | some (.text s) => s
  | _ => ""

/-- The description of a tool in a reply; its name if it has none. -/
def description (tool : Entries String Json) : String :=
  match Entries.get? "description" tool with
  | some (.text s) => s
  | _ => name tool

/-- The argument schema of a tool in a reply: the object under the first spelling of the key, else
that under the second, else none. -/
def schema (tool : Entries String Json) : Entries String Json :=
  match Entries.get? "input_schema" tool with
  | some (.map fields) => fields
  | _ =>
    match Entries.get? "inputSchema" tool with
    | some (.map fields) => fields
    | _ => []

/-- A definition is that of a tool in a reply of the server: it says what the reply says, and differs
in the order of keys alone, which ascends. -/
structure Defines (server : String) (tool : Entries String Json) (d : Definition) : Prop where
  server : d.server = server
  name : d.tool.name = name tool
  description : d.tool.description = description tool
  schema : Data.Reordered (.map (schema tool)) (.map d.tool.inputSchema)
  sorted : Data.keysSorted (.map d.tool.inputSchema)

/-- The definition of a tool in a reply. -/
def definition (server : String) (tool : Entries String Json) : Definition :=
  ⟨server, (ManifestTool.ofReply tool).listed⟩

theorem name_ofReply (tool : Entries String Json) : (ManifestTool.ofReply tool).name = name tool := by
  rw [ManifestTool.ofReply, ManifestTool.textField?, name]
  cases Entries.get? "name" tool with
  | none => rfl
  | some value => cases value <;> rfl

theorem schemaOf_eq (tool : Entries String Json) : ManifestTool.schemaOf tool = schema tool := by
  have hcamel : ((Entries.get? "inputSchema" tool).bind Data.map?).getD []
      = match Entries.get? "inputSchema" tool with
        | some (.map fields) => fields
        | _ => [] := by
    cases Entries.get? "inputSchema" tool with
    | none => rfl
    | some value => cases value <;> rfl
  rw [ManifestTool.schemaOf_json, schema, hcamel]
  cases Entries.get? "input_schema" tool with
  | none => rfl
  | some value => cases value <;> rfl

theorem defines_definition (server : String) (tool : Entries String Json) :
    Defines server tool (definition server tool) where
  server := rfl
  name := name_ofReply tool
  description := by
    show (ManifestTool.textField? tool "description").getD (ManifestTool.ofReply tool).name = _
    rw [name_ofReply, ManifestTool.textField?, description]
    cases Entries.get? "description" tool with
    | none => rfl
    | some value => cases value <;> rfl
  schema := by
    rw [← schemaOf_eq]
    exact Data.reordered_sorted (.map (ManifestTool.schemaOf tool))
  sorted := Data.keysSorted_sorted (.map (ManifestTool.schemaOf tool))

theorem objects_eq_of_toolsOf {result : Entries String Json} {tools : List (Entries String Json)}
    (h : Rpc.toolsOf result = .ok tools) : objects result = tools := by
  rw [Rpc.toolsOf, IsText.ofString_string] at h
  rw [objects]
  split at h
  · rename_i hnone
    cases h
    rw [hnone]
  · rename_i items hitems
    cases h
    rw [hitems]
  · cases h

theorem distinctKeys_of_mem_objects {result : Entries String Json}
    (hresult : (Data.map result).distinctKeys = true) :
    ∀ tool ∈ objects result, (Data.map tool).distinctKeys = true := by
  intro tool htool
  rw [objects] at htool
  split at htool
  · rename_i items hitems
    have hlist := Data.distinctKeys_of_field hresult hitems
    obtain ⟨value, hvalue, hmap⟩ := List.mem_filterMap.1 htool
    have hdistinct := Data.distinctKeysList_iff.1 hlist value hvalue
    cases value with
    | map fields =>
      cases hmap
      exact hdistinct
    | _ => cases hmap
  · cases htool

end ReplyTool

/-! ## The definitions -/

section

variable {tools : List (Entries String Json)}
variable (server : Server) (endpointVariable : Option String) (generatedAt : String)

/-- The tools that the manifest of a reply lists, in order. -/
private theorem listed_ofTools :
    (Manifest.ofTools server.slug endpointVariable tools generatedAt).tools.map ManifestTool.listed
      = (Text.sortedBy ReplyTool.name tools).map fun tool =>
        (ReplyTool.definition server.slug tool).tool := by
  have hsorted := Text.map_sortedBy ManifestTool.name ManifestTool.ofReply tools
  rw [funext ReplyTool.name_ofReply] at hsorted
  show (Text.sortedBy ManifestTool.name (tools.map ManifestTool.ofReply)).map _ = _
  rw [← hsorted, List.map_map]
  rfl

variable {text : String} {w : Workspace}

/-- The manifest of a reply is loaded without a complaint. -/
theorem loadServer_ofTools (htools : ∀ tool ∈ tools, (Data.map tool).distinctKeys = true)
    (htext : server.manifestText? = some text)
    (hfile : w.files.read (.ofString text) = .ok (Text.Utf8.encode
      (Manifest.ofTools server.slug endpointVariable tools generatedAt).write)) :
    CommandRun.loadServer server w
      = (.ok ⟨(Text.sortedBy ReplyTool.name tools).map (ReplyTool.definition server.slug), false⟩,
          w) := by
  obtain ⟨fields, hjson, hread⟩ :=
    Manifest.read_ofTools server.slug endpointVariable generatedAt htools hfile
  have hlisted := Manifest.tools?_of_toJson hjson
  rw [listed_ofTools] at hlisted
  rw [CommandRun.loadServer, htext]
  simp only [FileTree.isFile_eq_true.2 ⟨_, hfile⟩, CommandRun.loadManifest, hread, hlisted]
  rw [List.map_map]
  rfl

end

/-- A reply's tools and a server's definitions correspond: the definitions that a generation loads
for the server from the manifest of the reply are those of the objects in the reply, in the order of
their names, and of one name in the order of the reply. This holds for the server alone, and for
those of its definitions that are generated together with others. -/
theorem definitions_of_reply {result : Entries String Json} {tools : List (Entries String Json)}
    (hresult : (Data.map result).distinctKeys = true) (htools : Rpc.toolsOf result = .ok tools)
    (server : Server) (endpointVariable : Option String) (generatedAt : String) {text : String}
    {w : Workspace} (htext : server.manifestText? = some text)
    (hfile : w.files.read (.ofString text) = .ok (Text.Utf8.encode
      (Manifest.ofTools server.slug endpointVariable tools generatedAt).write)) :
    ∃ (ordered : List (Entries String Json)) (definitions : List Definition),
      Text.StablySorted ReplyTool.name (ReplyTool.objects result) ordered ∧
      ordered.length = definitions.length ∧
      (∀ pair ∈ ordered.zip definitions, ReplyTool.Defines server.slug pair.1 pair.2) ∧
      CommandRun.loadServer server w = (.ok ⟨definitions, false⟩, w) ∧
      ∀ (settings : Settings) wanted servers loaded w',
        settings.selectServers wanted = .ok servers → server ∈ servers →
        CommandRun.loadServers servers w = (.ok loaded, w') →
        (Plan.ordered loaded.definitions).filter (·.server == server.slug) = definitions := by
  have hobjects := ReplyTool.distinctKeys_of_mem_objects hresult
  rw [ReplyTool.objects_eq_of_toolsOf htools] at hobjects ⊢
  have hload := loadServer_ofTools server endpointVariable generatedAt hobjects htext hfile
  have hown := (CommandRun.loadServer_ok hload).1
  have hsorted := Text.stablySorted_sortedBy ReplyTool.name tools
  generalize Text.sortedBy ReplyTool.name tools = ordered at hload hown hsorted
  refine ⟨ordered, ordered.map (ReplyTool.definition server.slug), hsorted,
    (List.length_map _).symm, ?_, hload, ?_⟩
  · intro pair hpair
    rw [← List.map_prod_left_eq_zip] at hpair
    obtain ⟨tool, -, rfl⟩ := List.mem_map.1 hpair
    exact ReplyTool.defines_definition server.slug tool
  · intro settings wanted servers loaded w' hselect hmem hall
    have hascending := Settings.ascending_of_selectServers hselect
    have hdefinitions := hascending.filter_definitions hmem w.files
    rw [← (CommandRun.loadServers_ok hall).1, ← hown] at hdefinitions
    -- the definitions of the server are in order already
    have hpairs : (loaded.definitions.filter (·.server == server.slug)).Pairwise fun a b =>
        Text.lePair (a.server, a.tool.name) (b.server, b.tool.name) = true := by
      rw [hdefinitions, List.pairwise_map]
      refine hsorted.ascending.imp fun {a b} hle => ?_
      rw [Text.lePair_iff]
      refine Or.inr ⟨rfl, ?_⟩
      rwa [(ReplyTool.defines_definition server.slug a).name,
        (ReplyTool.defines_definition server.slug b).name]
    rw [Plan.ordered, Text.filter_sortedByPair_of_pairwise hpairs, hdefinitions]

/-- A reply with a tool without a name after one with a name, and something that is no tool. -/
def oddReply : Entries String Json :=
  [("tools", .list [.map [("name", .text "search")], .text "search", .map []])]

/-- A server with a manifest. -/
def manifestServer : Server :=
  { slug := "crm", endpoint := none, endpointVariable := none, timeout := Server.defaultTimeout
    auth := none, retry := [], manifest := some "crm.json" }

/-- A workspace with the manifest of the reply as its only file. -/
def manifestWorkspace : Workspace :=
  let manifest := Manifest.ofTools "crm" none (ReplyTool.objects oddReply) "2026-01-01T00:00:00Z"
  ⟨⟨[(["crm.json"], .file (Text.Utf8.encode manifest.write))], []⟩, .ofScript none, []⟩

/-- A lone file in the working directory is read by its name. -/
theorem read_alone (octets : List UInt8) :
    FileTree.read ⟨[(["crm.json"], .file octets)], []⟩ (.ofString "crm.json") = .ok octets := rfl

theorem read_manifestWorkspace :
    manifestWorkspace.files.read (.ofString "crm.json") = .ok (Text.Utf8.encode
      (Manifest.ofTools "crm" none (ReplyTool.objects oddReply) "2026-01-01T00:00:00Z").write) :=
  read_alone _

theorem definitions_of_oddReply :
    (Data.map oddReply).distinctKeys = true ∧
      ∃ definitions, definitions.length = 2 ∧
        CommandRun.loadServer manifestServer manifestWorkspace
          = (.ok ⟨definitions, false⟩, manifestWorkspace) := by
  have hkeys : (Data.map oddReply).distinctKeys = true := by decide
  have htools : Rpc.toolsOf oddReply = .ok (ReplyTool.objects oddReply) := rfl
  obtain ⟨ordered, definitions, hsorted, hlength, -, hload, -⟩ :=
    definitions_of_reply (w := manifestWorkspace) hkeys htools manifestServer none
      "2026-01-01T00:00:00Z" rfl read_manifestWorkspace
  refine ⟨hkeys, definitions, ?_, hload⟩
  rw [← hlength, hsorted.perm.length_eq]
  rfl

end ToolBindings
