import ToolBindings.CommandLine.Run
import ToolBindings.FileTree.Snapshot

/-!
# Described workspaces

A workspace as a JSON object: its files by path, the variables of the environment, the bodies that
endpoints answer with in turn, and the time. What comes of a command line is described in the same
way: the console text, the files that were written and those that were removed.
-/

namespace ToolBindings.CommandLine

/-- What a command line is run in, and the workspace it is run on. -/
structure Description where
  surroundings : Surroundings
  workspace : Workspace

namespace Description

/-- The directory that everything happens in. -/
def project : Location := ["project"]

/-- The texts of a map. -/
def texts (value : Option Json) : Entries String String :=
  ((value.bind Data.map?).getD []).filterMap fun (key, v) => v.text?.map fun s => (key, s)

/-- A tree with a file added. -/
def addFile (files : FileTree) (entry : String × String) : FileTree :=
  (files.writeAtomic "new" (.ofString entry.1) entry.2).1

/-- The tree of files by path. -/
def filesOf (entries : Entries String String) : FileTree :=
  entries.foldl addFile ⟨[(project, .directory)], project⟩

/-- The reply with a body. -/
def replyOf (body : String) : Reply := .response ⟨200, .ok body⟩

/-- The replies of endpoints. -/
def repliesOf (value : Option Json) : Entries String (List Reply) :=
  ((value.bind Data.map?).getD []).map fun (endpoint, bodies) =>
    (endpoint, ((bodies.list?).getD []).filterMap fun body => body.text?.map replyOf)

/-- Reads a description. -/
def ofJson (value : Json) : Description where
  surroundings := {
    environment := texts (value.field? "environment")
    home := (Path.ofLocation project).child "home"
    generatedAt := ((value.field? "now").bind Data.text?).getD ""
    tag := "new"
    printer := .ofWidth .unbounded }
  workspace := {
    files := filesOf (texts (value.field? "files"))
    connection := .ofScript (some (repliesOf (value.field? "replies")))
    notices := [] }

/-- Describes what comes of a command line. -/
def result (before : Description) (outcome : Outcome) (after : Workspace) : Json :=
  let old := before.workspace.files.snapshot project
  let new := after.files.snapshot project
  .map [
    ("console", .text outcome.console),
    ("written", .map ((Snapshot.written old new).map fun (path, s) =>
      (path, (s.map .text).getD .null))),
    ("removed", .list ((Snapshot.removed old new).map .text))]

/-- Runs a command line: the number that it exits with, and what comes of it. -/
def run (d : Description) (arguments : List String) : Nat × Json :=
  if asksVersion arguments then (0, .map [("console", .text versionLine)])
  else
    let (outcome, after) := d.surroundings.run arguments d.workspace
    (outcome.exit, d.result outcome after)

end Description
end ToolBindings.CommandLine
