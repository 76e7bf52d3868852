import ToolBindings.Command.Notice
import ToolBindings.FileTree.Change
import ToolBindings.Server.Invocation

/-!
# Commands

What a command works on and how it ends. A command reports a failure and goes on or ends with the
status for failure; a crash ends it without a status. Either way it returns the workspace as it
leaves it. `eachServer` is the walk over servers that commands share.
-/

namespace ToolBindings

/-- How a command ends. -/
inductive ExitStatus where
  | success
  | failure
deriving DecidableEq

namespace ExitStatus

/-- The number of a status. -/
def code : ExitStatus → Nat
  | .success => 0
  | .failure => 1

/-- The status of a command in which something failed or nothing did. -/
def ofFailed (failed : Bool) : ExitStatus := if failed then .failure else .success

end ExitStatus

/-- What commands work on: files, the connection to the servers, and what has been said. -/
structure Workspace where
  files : FileTree
  connection : Connection
  notices : List Notice

namespace Workspace

/-- Says something. -/
def say (w : Workspace) (notice : Notice) : Workspace := { w with notices := w.notices ++ [notice] }

end Workspace

/-- What a command is run with: the project, the time that manifests are stamped with, and the tag
that makes the names of temporary files fresh. -/
structure CommandRun where
  project : Project
  generatedAt : String
  tag : String

/-- A piece of a command: what comes of it, and the workspace that it leaves. -/
abbrev Step (α : Type) := Workspace → Except Crash α × Workspace

/-- How a walk over servers went. -/
inductive Visits where
  | allWell
  | someFailed
  | stopped
deriving DecidableEq

namespace CommandRun

/-- Visits servers in order. A failure is reported; it ends the walk if that is asked for. -/
def eachServer (visit : Server → Workspace → Except Fault Unit × Workspace)
    (complaint : String → Failure → Notice) (failFast : Bool) : List Server → Step Visits
  | [], w => (.ok .allWell, w)
  | server :: rest, w =>
    match visit server w with
    | (.ok (), w) => eachServer visit complaint failFast rest w
    | (.error (.crash crash), w) => (.error crash, w)
    | (.error (.failure cause), w) =>
      let w := w.say (complaint server.slug cause)
      if failFast then (.ok .stopped, w)
      else
        match eachServer visit complaint failFast rest w with
        | (.ok .allWell, w) => (.ok .someFailed, w)
        | result => result

/-- Does something with the wanted servers, if there are any. -/
def withServers (run : CommandRun) (wanted : List String) (purpose : String)
    (act : List Server → Step ExitStatus) : Step ExitStatus := fun w =>
  match run.project.settings.selectServers wanted with
  | .error (.crash crash) => (.error crash, w)
  | .error (.failure cause) => (.ok .failure, w.say (.failed cause))
  | .ok [] => (.ok .success, w.say (.noServers purpose))
  | .ok servers => act servers w

end CommandRun
end ToolBindings
