import ToolBindings.Command.Generate
import ToolBindings.Proofs.FileTree.Reading
import ToolBindings.Proofs.Server.Selection

/-!
# Loaded definitions

What a generation loads is decided by the files alone: the definitions of a server are those of its
manifest, none if the manifest cannot be used. Loading says what it skips and changes no file.
-/

namespace ToolBindings

/-- The tools in a server's manifest; none if there is no manifest or it cannot be used. -/
def Server.listedTools (server : Server) (files : FileTree) : List ListedTool :=
  match server.manifestText? with
  | none => []
  | some text =>
    match ManifestFile.read files (.ofString text) with
    | .error _ => []
    | .ok fields => (ManifestFile.tools? fields).getD []

/-- The tools that a server lists depend on what stands at its manifest path. -/
theorem Server.listedTools_congr {server : Server} {files files' : FileTree}
    (h : ∀ text, server.manifestText? = some text →
      files.read (.ofString text) = files'.read (.ofString text)) :
    server.listedTools files = server.listedTools files' := by
  rw [listedTools, listedTools]
  cases htext : server.manifestText? with
  | none => rfl
  | some text =>
    dsimp only
    rw [ManifestFile.read, ManifestFile.read, h text htext]

/-- The definitions of a server's manifest. -/
def Server.definitions (server : Server) (files : FileTree) : List Definition :=
  (server.listedTools files).map fun tool => ⟨server.slug, tool⟩

theorem Server.server_of_mem_definitions {server : Server} {files : FileTree} {d : Definition}
    (h : d ∈ server.definitions files) : d.server = server.slug := by
  obtain ⟨tool, -, rfl⟩ := List.mem_map.1 h
  rfl

private theorem filter_definitions_self (server : Server) (files : FileTree) :
    (server.definitions files).filter (·.server == server.slug) = server.definitions files := by
  rw [List.filter_eq_self]
  intro d hd
  rw [Server.server_of_mem_definitions hd]
  exact beq_self_eq_true _

private theorem filter_definitions_of_ne {server : Server} {slug : String}
    (h : server.slug ≠ slug) (files : FileTree) :
    (server.definitions files).filter (·.server == slug) = [] := by
  rw [List.filter_eq_nil_iff]
  intro d hd
  rw [Server.server_of_mem_definitions hd, beq_iff_eq]
  exact h

/-- Of the definitions of selected servers, those under one slug are those of one server. -/
theorem Settings.Ascending.filter_definitions {servers : List Server}
    (h : Settings.Ascending servers) {server : Server} (hmem : server ∈ servers)
    (files : FileTree) :
    (servers.flatMap (·.definitions files)).filter (·.server == server.slug)
      = server.definitions files := by
  induction servers with
  | nil => cases hmem
  | cons first rest ih =>
    obtain ⟨hfirst, hrest⟩ := List.pairwise_cons.1 h
    rw [List.flatMap_cons, List.filter_append]
    rcases List.mem_cons.1 hmem with rfl | hmem
    · have hnone : (rest.flatMap (·.definitions files)).filter (·.server == server.slug) = [] := by
        rw [List.filter_flatMap, List.flatMap_eq_nil_iff]
        intro other hother
        exact filter_definitions_of_ne (String.ne_of_lt (hfirst other hother)).symm files
      rw [filter_definitions_self, hnone, List.append_nil]
    · rw [filter_definitions_of_ne (String.ne_of_lt (hfirst server hmem)) files, ih hrest hmem,
        List.nil_append]

namespace CommandRun

theorem listedTools_of_read_error {server : Server} {files : FileTree} {text : String}
    (htext : server.manifestText? = some text)
    (hread : ∀ octets, files.read (.ofString text) ≠ .ok octets) : server.listedTools files = [] := by
  have hfault : ∃ fault, ManifestFile.read files (.ofString text) = .error fault := by
    rw [ManifestFile.read]
    split
    · exact ⟨_, rfl⟩
    · exact ⟨_, rfl⟩
    · rename_i octets hoctets
      exact absurd hoctets (hread octets)
  obtain ⟨fault, hfault⟩ := hfault
  rw [Server.listedTools, htext]
  simp only [hfault]

/-- Loading a server gives the definitions of its manifest and changes no file. -/
theorem loadServer_ok {server : Server} {w w' : Workspace} {loaded : Loaded}
    (h : loadServer server w = (.ok loaded, w')) :
    loaded.definitions = server.definitions w.files ∧ w'.files = w.files := by
  -- `listedTools` reads the manifest silently where `loadServer` reports what it meets
  rw [Server.definitions]
  rw [loadServer] at h
  split at h
  · rename_i htext
    cases h
    rw [Server.listedTools, htext]
    exact ⟨rfl, rfl⟩
  · rename_i text htext
    dsimp only at h
    split at h
    · cases h
    · rename_i hfile
      cases h
      have hnone : ∀ octets, w.files.read (.ofString text) ≠ .ok octets := by
        intro octets hread
        rw [FileTree.isFile_eq_true.2 ⟨octets, hread⟩] at hfile
        cases hfile
      rw [listedTools_of_read_error htext hnone]
      exact ⟨rfl, rfl⟩
    · rw [Server.listedTools, htext]
      rw [loadManifest] at h
      dsimp only
      split at h
      · cases h
      · rename_i hread
        cases h
        rw [hread]
        exact ⟨rfl, rfl⟩
      · rename_i hread
        rw [hread]
        dsimp only
        split at h
        · rename_i htools
          cases h
          rw [htools]
          exact ⟨rfl, rfl⟩
        · rename_i htools
          cases h
          rw [htools]
          exact ⟨rfl, rfl⟩

/-- Loading servers gives the definitions of their manifests, server after server. -/
theorem loadServers_ok {servers : List Server} {w w' : Workspace} {loaded : Loaded}
    (h : loadServers servers w = (.ok loaded, w')) :
    loaded.definitions = servers.flatMap (·.definitions w.files) ∧ w'.files = w.files := by
  induction servers generalizing w w' loaded with
  | nil =>
    cases h
    exact ⟨rfl, rfl⟩
  | cons server servers ih =>
    rw [loadServers] at h
    split at h
    · cases h
    · rename_i first w₁ hfirst
      obtain ⟨hdefinitions, hfiles⟩ := loadServer_ok hfirst
      split at h
      · cases h
      · rename_i more w₂ hmore
        obtain ⟨hrest, hfiles'⟩ := ih hmore
        cases h
        rw [hfiles] at hrest hfiles'
        rw [List.flatMap_cons, ← hdefinitions, ← hrest]
        exact ⟨rfl, hfiles'⟩

theorem loadServers_cons {server : Server} {servers : List Server} {w w' w'' : Workspace}
    {first more : Loaded} (hfirst : loadServer server w = (.ok first, w'))
    (hmore : loadServers servers w' = (.ok more, w'')) :
    loadServers (server :: servers) w
      = (.ok ⟨first.definitions ++ more.definitions, first.failed || more.failed⟩, w'') := by
  rw [loadServers, hfirst]
  dsimp only
  rw [hmore]

theorem files_loadServer (server : Server) (w : Workspace) :
    (loadServer server w).2.files = w.files := by
  rw [loadServer]
  split
  · rfl
  · dsimp only
    split
    · rfl
    · rfl
    · rw [loadManifest]
      split
      · rfl
      · rfl
      · split <;> rfl

/-- Loading servers changes no file, however it ends. -/
theorem files_loadServers (servers : List Server) (w : Workspace) :
    (loadServers servers w).2.files = w.files := by
  induction servers generalizing w with
  | nil => rfl
  | cons server servers ih =>
    have hfirst := files_loadServer server w
    rw [loadServers]
    rcases hload : loadServer server w with ⟨crash | first, between⟩
    · rw [hload] at hfirst
      exact hfirst
    · rw [hload] at hfirst
      have hrest := ih between
      rw [hfirst] at hrest
      dsimp only
      rcases hmore : loadServers servers between with ⟨crash | more, after⟩ <;>
      · rw [hmore] at hrest
        exact hrest

end CommandRun
end ToolBindings
