import ToolBindings.Command.Basic
import ToolBindings.Command.Plan

/-!
# Generating

Writes the modules for the tools that manifests list. What was generated before can be removed
first. An obstacle to a file operation ends the command with a report.
-/

namespace ToolBindings

/-- The choices of a generation. -/
structure GenerateOptions where
  dryRun : Bool
  clean : Bool
  failOnCollision : Bool

namespace CommandRun

/-! ## Cleaning -/

/-- Removes what stands at a path. -/
def removeAny (files : FileTree) (path : Path) : Except FileError FileTree :=
  match files.isDirectory path with
  | .error e => .error e
  | .ok true => files.removeTree path
  | .ok false => files.removeFile path

/-- Removes what stands at a path, if anything does; an obstacle is reported. -/
def cleanPath (dryRun : Bool) (path : Path) : Step Unit := fun w =>
  match w.files.isPresent path with
  | .error e => (.error (.file e), w)
  | .ok false => (.ok (), w)
  | .ok true =>
    if dryRun then (.ok (), w.say (.wouldClean path))
    else
      match removeAny w.files path with
      | .error e => (.ok (), w.say (.notCleaned path e))
      | .ok files => (.ok (), { w with files }.say (.cleaned path))

/-- Cleans paths one after the other. -/
def cleanPaths (dryRun : Bool) : List Path → Step Unit
  | [], w => (.ok (), w)
  | path :: rest, w =>
    match cleanPath dryRun path w with
    | (.ok (), w) => cleanPaths dryRun rest w
    | (.error crash, w) => (.error crash, w)

/-- What a generation for servers replaces: their packages and the aggregate. -/
def cleanTargets (g : GeneratedSettings) (servers : List Server) : List Path :=
  servers.map (fun server => g.packagePath server.slug) ++ [g.aggregatePath]

/-! ## Definitions -/

/-- Definitions that were loaded, and whether a manifest could not be read. -/
structure Loaded where
  definitions : List Definition
  failed : Bool

/-- The definitions in a manifest file. -/
def loadManifest (server : String) (path : Path) : Step Loaded := fun w =>
  match ManifestFile.read w.files path with
  | .error (.crash crash) => (.error crash, w)
  | .error (.failure cause) => (.ok ⟨[], true⟩, w.say (.manifestFailed server cause))
  | .ok fields =>
    match ManifestFile.tools? fields with
    | none => (.ok ⟨[], false⟩, w.say (.toolsNotListed server))
    | some tools => (.ok ⟨tools.map fun tool => ⟨server, tool⟩, false⟩, w)

/-- The definitions of a server; a server without a manifest has none. -/
def loadServer (server : Server) : Step Loaded := fun w =>
  match server.manifestText? with
  | none => (.ok ⟨[], false⟩, w.say (.manifestNotSet server.slug))
  | some text =>
    let path := Path.ofString text
    match w.files.isFile path with
    | .error e => (.error (.file e), w)
    | .ok false => (.ok ⟨[], false⟩, w.say (.manifestNotFound server.slug path))
    | .ok true => loadManifest server.slug path w

/-- The definitions of servers. -/
def loadServers : List Server → Step Loaded
  | [], w => (.ok ⟨[], false⟩, w)
  | server :: rest, w =>
    match loadServer server w with
    | (.error crash, w) => (.error crash, w)
    | (.ok first, w) =>
      match loadServers rest w with
      | (.error crash, w) => (.error crash, w)
      | (.ok more, w) =>
        (.ok ⟨first.definitions ++ more.definitions, first.failed || more.failed⟩, w)

/-! ## Writing -/

/-- The text of a marker file. -/
def markerText : String := "\"\"\"Generated by mcpforge. Do not edit.\"\"\"\n"

/-- Writes a planned file; a marker that is there stays. -/
def writePlanned (run : CommandRun) (dryRun : Bool) (file : PlannedFile) : Step Unit := fun w =>
  match file with
  | .module path name source =>
    if dryRun then (.ok (), w.say (.wouldGenerate path name))
    else
      match w.files.writeAtomic run.tag path source with
      | (files, .ok ()) => (.ok (), { w with files }.say (.generated path))
      | (files, .error e) => (.error (.file e), { w with files })
  | .marker directory =>
    let path := directory.child packageMarker
    if dryRun then (.ok (), w)
    else
      match w.files.isPresent path with
      | .error e => (.error (.file e), w)
      | .ok true => (.ok (), w)
      | .ok false =>
        match w.files.writeAtomic run.tag path markerText with
        | (files, .ok ()) => (.ok (), { w with files })
        | (files, .error e) => (.error (.file e), { w with files })

/-- Writes planned files one after the other. -/
def writeAll (run : CommandRun) (dryRun : Bool) : List PlannedFile → Step Unit
  | [], w => (.ok (), w)
  | file :: rest, w =>
    match run.writePlanned dryRun file w with
    | (.ok (), w) => writeAll run dryRun rest w
    | (.error crash, w) => (.error crash, w)

/-! ## The command -/

/-- Writes a plan and ends: with its collision, or with the number of modules. -/
def carryOut (run : CommandRun) (dryRun failed : Bool) (plan : Plan) : Step ExitStatus := fun w =>
  match run.writeAll dryRun plan.files w with
  | (.error crash, w) => (.error crash, w)
  | (.ok (), w) =>
    match plan.collision with
    | some collision => (.ok .failure, w.say (.failed (.configuration (.collision collision))))
    | none => (.ok (.ofFailed failed), w.say (.generatedCount plan.moduleCount))

/-- Cleans if asked, loads the definitions of servers, and carries out the plan for them. -/
def generateFor (run : CommandRun) (options : GenerateOptions) (servers : List Server) :
    Step ExitStatus := fun w =>
  let g := run.project.settings.generated
  let targets := if options.clean then cleanTargets g servers else []
  match cleanPaths options.dryRun targets w with
  | (.error crash, w) => (.error crash, w)
  | (.ok (), w) =>
    match loadServers servers w with
    | (.error crash, w) => (.error crash, w)
    | (.ok loaded, w) =>
      let plan := Plan.ofDefinitions g (!options.failOnCollision) loaded.definitions
      run.carryOut options.dryRun loaded.failed plan w

/-- An obstacle to a file operation is reported and ends a step with the status for failure. A NUL
in a path is no obstacle but a crash. -/
def reportingObstacles (step : Step ExitStatus) : Step ExitStatus := fun w =>
  match step w with
  | (.error (.file .embeddedNul), w) => (.error (.file .embeddedNul), w)
  | (.error (.file e), w) => (.ok .failure, w.say (.notGenerated e))
  | result => result

/-- Generates the modules for the tools of the wanted servers. -/
def generate (run : CommandRun) (wanted : List String) (options : GenerateOptions) :
    Step ExitStatus :=
  run.withServers wanted "generation" fun servers =>
    reportingObstacles (run.generateFor options servers)

end CommandRun
end ToolBindings
