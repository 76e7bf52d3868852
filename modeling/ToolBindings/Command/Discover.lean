import ToolBindings.Command.Basic
import ToolBindings.Manifest.Basic

/-!
# Discovering

Asks servers for their tools and writes a manifest for each. Pruning then removes the manifests of
servers that were not selected.
-/

namespace ToolBindings

/-- The choices of a discovery. -/
structure DiscoverOptions where
  dryRun : Bool
  prune : Bool
  failFast : Bool

namespace CommandRun

/-- What an attempt to write the manifest of a server comes to. -/
def manifestWritten (path : Path) (server : Server) (w : Workspace) :
    FileTree × Except FileError Unit → Except Fault Unit × Workspace
  | (files, .ok ()) => (.ok (), { w with files }.say (.discovered server.slug path))
  | (files, .error .embeddedNul) => (.error (.crash (.file .embeddedNul)), { w with files })
  | (files, .error e) => (.error (.failure (.manifestNotWritten path e)), { w with files })

/-- Writes the manifest of a server. A manifest with halves of pairs is begun, but not written. -/
def writeManifest (run : CommandRun) (path : Path) (server : Server)
    (tools : List (Entries LooseText LooseJson)) (w : Workspace) :
    Except Fault Unit × Workspace :=
  if tools.all ManifestTool.isWritable then
    let manifest := Manifest.ofTools server.slug server.endpointVariable
      (tools.map Data.shownMap) run.generatedAt
    manifestWritten path server w (w.files.writeAtomic run.tag path manifest.write)
  else
    match w.files.writeAborted run.tag path with
    | (files, .ok ()) => (.error (.crash .notWhole), { w with files })
    | (files, .error e) => manifestWritten path server w (files, .error e)

/-- Asks a server for its tools and writes its manifest. -/
def discoverServer (run : CommandRun) (dryRun : Bool) (server : Server) (w : Workspace) :
    Except Fault Unit × Workspace :=
  match server.manifestPath with
  | .error cause => (.error (.ofConfiguration cause), w)
  | .ok path =>
    match run.project.listTools server w.connection with
    | (.error fault, connection) => (.error fault, { w with connection })
    | (.ok tools, connection) =>
      let w := { w with connection }
      if dryRun then (.ok (), w.say (.wouldDiscover server.slug path tools.length))
      else run.writeManifest path server tools w

/-- Removes one manifest, if it is there. -/
def pruneManifest (dryRun : Bool) (path : Path) : Step Unit := fun w =>
  match w.files.isFile path with
  | .error e => (.error (.file e), w)
  | .ok false => (.ok (), w)
  | .ok true =>
    if dryRun then (.ok (), w.say (.wouldPrune path))
    else
      match w.files.removeFile path with
      | .error e => (.error (.file e), w)
      | .ok files => (.ok (), { w with files }.say (.pruned path))

/-- Removes the manifests of servers that are not among the selected ones. -/
def prune (dryRun : Bool) (selected : List Server) : List Server → Step Unit
  | [], w => (.ok (), w)
  | server :: rest, w =>
    match server.manifestText? with
    | none => prune dryRun selected rest w
    | some path =>
      if selected.any (·.slug == server.slug) then prune dryRun selected rest w
      else
        match pruneManifest dryRun (.ofString path) w with
        | (.ok (), w) => prune dryRun selected rest w
        | (.error crash, w) => (.error crash, w)

/-- Prunes after a walk that was not stopped, and ends. -/
def afterDiscovery (run : CommandRun) (options : DiscoverOptions) (selected : List Server)
    (visits : Visits) : Step ExitStatus := fun w =>
  let status := ExitStatus.ofFailed (visits ≠ .allWell)
  if visits ≠ .stopped ∧ options.prune then
    let all := run.project.settings.allServers.toOption.getD []
    match prune options.dryRun selected all w with
    | (.ok (), w) => (.ok status, w)
    | (.error crash, w) => (.error crash, w)
  else (.ok status, w)

/-- Discovers the tools of the wanted servers. -/
def discover (run : CommandRun) (wanted : List String) (options : DiscoverOptions) :
    Step ExitStatus :=
  run.withServers wanted "discover" fun selected w =>
    match eachServer (run.discoverServer options.dryRun) .discoverFailed options.failFast selected w
    with
    | (.error crash, w) => (.error crash, w)
    | (.ok visits, w) => run.afterDiscovery options selected visits w

end CommandRun
end ToolBindings
