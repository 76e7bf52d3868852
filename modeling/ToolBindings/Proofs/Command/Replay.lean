import ToolBindings.Binding.Registry
import ToolBindings.Proofs.Command.Loading
import ToolBindings.Proofs.Manifest.FromReply

/-!
# Replay of generation by the registry

A generation orders the definitions of all servers and claims a class name for each; the registry
reads the manifests server after server and claims names again. Both walk over the same pairs of
server and tool in the same order, so both come to the same classes under the same names. They part
only over a manifest path with a NUL, which a generation passes over and the registry does not
survive.
-/

namespace ToolBindings

/-- The tool that a descriptor stands for, as the registry resolves it. -/
def Descriptor.resolved (d : Descriptor) : ResolvedTool := ⟨d.server, d.tool, d.className, d.module⟩

/-- The server and the tool of a definition. -/
def Definition.key (d : Definition) : String × String := (d.server, d.tool.name)

/-- A NUL stands in the path of the server's manifest. -/
def Server.hasNul (server : Server) : Bool :=
  match server.manifestText? with
  | none => false
  | some text => (Path.ofString text).hasNul

namespace Registry

/-- The classes of pairs of server and tool, whose names are claimed in the order of the pairs. -/
def replay (namespaceName : String) (claimed : Name.Claimed) :
    List (String × String) → List ResolvedTool × Name.Claimed
  | [] => ([], claimed)
  | (server, tool) :: rest =>
    let (className, claimed) := claimTool claimed server tool
    let identifier := dottedName (trimDots namespaceName) (Name.package server) className
    let (more, claimed) := replay namespaceName claimed rest
    (⟨server, tool, className, identifier⟩ :: more, claimed)

theorem replay_append (namespaceName : String) (claimed : Name.Claimed)
    (ps qs : List (String × String)) :
    replay namespaceName claimed (ps ++ qs)
      = ((replay namespaceName claimed ps).1 ++
          (replay namespaceName (replay namespaceName claimed ps).2 qs).1,
        (replay namespaceName (replay namespaceName claimed ps).2 qs).2) := by
  induction ps generalizing claimed with
  | nil => rfl
  | cons p ps ih =>
    obtain ⟨server, tool⟩ := p
    simp only [List.cons_append, replay, ih]

/-! ## The generation -/

/-- Where suffixes are allowed a name is always found. -/
theorem allocateTool_eq_claimTool (claimed : Name.Claimed) (server tool : String) :
    claimed.allocateTool server tool true = .ok (claimTool claimed server tool) := by
  rw [claimTool]
  split
  · assumption
  · rename_i collision hcollision
    rw [Name.Claimed.allocateTool, Name.Claimed.allocate] at hcollision
    split at hcollision <;> cases hcollision

/-- A generation gives definitions the classes of their pairs, without a collision. -/
theorem describe_eq_replay (g : GeneratedSettings) (claimed : Name.Claimed)
    (definitions : List Definition) :
    (Plan.describe g true claimed definitions).2 = none ∧
      (Plan.describe g true claimed definitions).1.map Descriptor.resolved
        = (replay g.namespaceName claimed (definitions.map Definition.key)).1 := by
  induction definitions generalizing claimed with
  | nil => exact ⟨rfl, rfl⟩
  | cons d rest ih =>
    have hrest := ih (claimTool claimed d.server d.tool.name).2
    simp only [Plan.describe, allocateTool_eq_claimTool, List.map_cons, Definition.key, replay]
    refine ⟨hrest.1, ?_⟩
    rw [hrest.2]
    rfl

/-! ## The registry -/

private theorem read_of_hasNul {files : FileTree} {path : Path} (h : path.hasNul = true) :
    ManifestFile.read files path = .error (.crash (.file .embeddedNul)) := by
  rw [ManifestFile.read, FileTree.read_eq_embeddedNul.2 h]

private theorem read_ne_crash {files : FileTree} {path : Path} (h : ¬path.hasNul = true)
    (crash : Crash) : ManifestFile.read files path ≠ .error (.crash crash) := by
  intro hread
  rw [ManifestFile.read] at hread
  split at hread
  · rename_i hnone
    exact h (FileTree.read_eq_embeddedNul.1 hnone)
  · cases hread
  · rename_i octets _
    cases hparse : ManifestFile.parse path octets with
    | ok fields =>
      rw [hparse] at hread
      cases hread
    | error cause =>
      rw [hparse] at hread
      cases hread

/-- The names of a server's tools are those of its definitions, unless its manifest path holds a
NUL. -/
theorem toolNames_eq (registry : Registry) (server : Server) :
    registry.toolNames server
      = if server.hasNul then .error (.file .embeddedNul)
        else .ok (Text.sorted ((server.listedTools registry.files).map ListedTool.name)) := by
  rw [toolNames, Server.hasNul, Server.listedTools]
  cases server.manifestText? with
  | none => simp [Text.sorted]
  | some text =>
    dsimp only
    by_cases hnul : (Path.ofString text).hasNul = true
    · rw [if_pos hnul, read_of_hasNul hnul]
    · rw [if_neg hnul]
      cases hread : ManifestFile.read registry.files (.ofString text) with
      | ok fields => rfl
      | error fault =>
        cases fault with
        | failure cause => simp [Text.sorted]
        | crash crash => exact absurd hread (read_ne_crash hnul crash)

/-- The names of a server's tools are claimed whatever is admitted. -/
theorem resolveTools_of_admits {allowlist : Allowlist} {keep : String → String → Bool}
    (h : ∀ server tool, allowlist.admits server tool = .ok (keep server tool))
    (registry : Registry) (server : String) (claimed : Name.Claimed) (names : List String) :
    registry.resolveTools allowlist server claimed names
      = .ok ((replay registry.namespaceName claimed (names.map fun tool => (server, tool))).1.filter
            (fun t => keep t.server t.tool),
          (replay registry.namespaceName claimed (names.map fun tool => (server, tool))).2) := by
  induction names generalizing claimed with
  | nil => rfl
  | cons tool names ih =>
    simp only [resolveTools, h, ih, bind, Except.bind, List.map_cons, replay, List.filter_cons]
    cases keep server tool <;> rfl

theorem resolveTools_everything (registry : Registry) (server : String) (claimed : Name.Claimed)
    (names : List String) :
    registry.resolveTools .everything server claimed names
      = .ok (replay registry.namespaceName claimed (names.map fun tool => (server, tool))) := by
  have hall : ∀ server tool, Allowlist.everything.admits server tool = .ok true := fun _ _ => rfl
  rw [resolveTools_of_admits hall, List.filter_eq_self.2 fun _ _ => rfl]

/-- The pairs of a server in the order in which the registry goes through them. -/
def keysOf (files : FileTree) (server : Server) : List (String × String) :=
  (Text.sorted ((server.listedTools files).map ListedTool.name)).map fun tool =>
    (server.slug, tool)

theorem resolveServers_everything (registry : Registry) (claimed : Name.Claimed)
    {servers : List Server} (h : ∀ server ∈ servers, server.hasNul = false) :
    registry.resolveServers .everything claimed servers
      = .ok (replay registry.namespaceName claimed
          (servers.flatMap (keysOf registry.files))).1 := by
  induction servers generalizing claimed with
  | nil => rfl
  | cons server servers ih =>
    have hserver := toolNames_eq registry server
    rw [h server List.mem_cons_self] at hserver
    have hservers := fun claimed =>
      ih claimed fun other hother => h other (List.mem_cons_of_mem server hother)
    rw [resolveServers, hserver]
    simp only [bind, Except.bind, resolveTools_everything, hservers, List.flatMap_cons,
      replay_append]
    rfl

/-- A NUL in one manifest path is the end of the resolution of all servers. -/
theorem resolveServers_nul (registry : Registry) (claimed : Name.Claimed) {servers : List Server}
    {server : Server} (hmem : server ∈ servers) (hnul : server.hasNul = true) :
    registry.resolveServers .everything claimed servers = .error (.file .embeddedNul) := by
  induction servers generalizing claimed with
  | nil => cases hmem
  | cons first rest ih =>
    have hfirst := toolNames_eq registry first
    cases hnulFirst : first.hasNul with
    | true =>
      rw [hnulFirst] at hfirst
      rw [resolveServers, hfirst]
      rfl
    | false =>
      rw [hnulFirst] at hfirst
      have hrest : server ∈ rest := by
        rcases List.mem_cons.1 hmem with rfl | hrest
        · rw [hnul] at hnulFirst
          cases hnulFirst
        · exact hrest
      rw [resolveServers, hfirst]
      simp only [bind, Except.bind, resolveTools_everything, ih _ hrest]
      rfl

/-! ## One order -/

private theorem perm_keysOf (files : FileTree) (server : Server) :
    (keysOf files server).Perm ((server.definitions files).map Definition.key) := by
  have hnames : (Text.sorted ((server.listedTools files).map ListedTool.name)).Perm
      ((server.listedTools files).map ListedTool.name) := perm_sortBy _ _
  have hkeys := hnames.map fun tool => (server.slug, tool)
  rw [List.map_map] at hkeys
  rw [keysOf, Server.definitions, List.map_map]
  exact hkeys

private theorem perm_flatMap_keysOf (files : FileTree) (servers : List Server) :
    (servers.flatMap (keysOf files)).Perm
      ((servers.flatMap (·.definitions files)).map Definition.key) := by
  induction servers with
  | nil => exact List.Perm.refl _
  | cons server servers ih =>
    rw [List.flatMap_cons, List.flatMap_cons, List.map_append]
    exact (perm_keysOf files server).append ih

private theorem pairwise_keysOf (files : FileTree) (server : Server) :
    (keysOf files server).Pairwise fun a b => Text.lePair a b = true := by
  have hnames := Text.pairwise_sortedBy id ((server.listedTools files).map ListedTool.name)
  rw [keysOf, List.pairwise_map]
  refine hnames.imp fun {a b} hle => ?_
  exact Text.lePair_iff.2 (Or.inr ⟨rfl, hle⟩)

theorem fst_of_mem_keysOf {files : FileTree} {server : Server} {p : String × String}
    (h : p ∈ keysOf files server) : p.1 = server.slug := by
  obtain ⟨tool, -, rfl⟩ := List.mem_map.1 h
  rfl

/-- The order of a generation is the order of the registry: server after server, and the tools of
each by name. -/
theorem map_key_ordered {servers : List Server} (h : Settings.Ascending servers)
    (files : FileTree) :
    (Plan.ordered (servers.flatMap (·.definitions files))).map Definition.key
      = servers.flatMap (keysOf files) := by
  refine Text.map_sortedByPair_of_perm (perm_flatMap_keysOf files servers) ?_
  rw [List.pairwise_flatMap]
  refine ⟨fun server _ => pairwise_keysOf files server, h.imp ?_⟩
  intro server other hlt p hp q hq
  rw [Text.lePair_iff, fst_of_mem_keysOf hp, fst_of_mem_keysOf hq]
  exact Or.inl hlt

/-! ## Agreement -/

/-- Settings with one server, by its manifest. -/
def oneServer (slug manifest : String) : Settings :=
  { servers := [(slug, .map [(.text "manifest", .text manifest)])]
    nodup := by simp
    retry := []
    generated := .default }

theorem selectServers_oneServer (slug manifest : String) :
    (oneServer slug manifest).selectServers []
      = .ok [{ manifestServer with slug := slug, manifest := some manifest }] := by
  have hsorted : Text.sortedBy (·.1) (oneServer slug manifest).servers
      = (oneServer slug manifest).servers := rfl
  rw [Settings.selectServers, Settings.allServers, hsorted]
  rfl

end Registry
end ToolBindings
