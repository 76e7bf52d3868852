import ToolBindings.FileTree.Basic

/-!
# Changes to file trees

Making directories, writing files as a whole, and removing. Each change returns the tree it leaves,
also when it fails. `writeAtomic` writes beside its target and moves the result there, so that the
target holds either what it held or the whole new text.
-/

namespace ToolBindings.FileTree

/-- Makes one directory. -/
def makeDirectory (t : FileTree) (p : Path) : Except FileError FileTree :=
  match t.locate false p with
  | .error e => .error e
  | .ok location =>
    match t.at? location with
    | some _ => .error (.obstacle .exists p none)
    | none => .ok (t.setEntry location .directory)

/-- An error of making a directory that is no error if a directory is there already. -/
def unlessDirectory (t : FileTree) (p : Path) (e : FileError) : Except FileError Unit :=
  match e with
  | .embeddedNul => .error e
  | _ =>
    match t.isDirectory p with
    | .ok true => .ok ()
    | .ok false => .error e
    | .error e => .error e

/-- Makes a directory and every missing one above it. -/
def makeDirectories (t : FileTree) (p : Path) : FileTree × Except FileError Unit :=
  match t.makeDirectory p with
  | .ok t => (t, .ok ())
  | .error e =>
    match e with
    | .obstacle .missing _ _ =>
      if _h : p.parent = p then (t, .error e)
      else
        match makeDirectories t p.parent with
        | (t, .error e) => (t, .error e)
        | (t, .ok ()) =>
          match t.makeDirectory p with
          | .ok t => (t, .ok ())
          | .error (.obstacle .missing path target) => (t, .error (.obstacle .missing path target))
          | .error e => (t, t.unlessDirectory p e)
    | e => (t, t.unlessDirectory p e)
termination_by p.names.length
decreasing_by exact Path.length_parent_lt ‹_›

/-- The name of the file that a text is first written to, beside its target. -/
def temporaryName (name tag : String) : String := "." ++ name ++ "." ++ tag ++ ".tmp"

/-- The path of the file that a text is first written to, worked out from the root. -/
def temporaryPath (t : FileTree) (p : Path) (tag : String) : Path :=
  (p.parent.absolute t.here).child (temporaryName p.lastName tag)

/-- Moves a file from a place to a path. A directory at the path is in the way, and so is a path
that ends in no name of its own. -/
def moveFile (t : FileTree) (source : Location) (sourcePath p : Path) : Except FileError FileTree :=
  match t.at? source, t.locate false p with
  | some (.file octets), .ok target =>
    if p.lastName = "" ∨ p.lastName = ".." then .error (.obstacle .busy sourcePath (some p))
    else
      match t.at? target with
      | some .directory => .error (.obstacle .isDirectory sourcePath (some p))
      | _ => .ok ((t.eraseEntry source).setEntry target (.file octets))
  | _, .error (.obstacle what _ _) => .error (.obstacle what sourcePath (some p))
  | _, .error e => .error e
  | _, _ => .error (.obstacle .missing sourcePath (some p))

/-- Makes the directories above a path and finds the place of the temporary file, where nothing may
be. -/
def reserve (t : FileTree) (tag : String) (p : Path) : FileTree × Except FileError Location :=
  match t.makeDirectories p.parent with
  | (t, .error e) => (t, .error e)
  | (t, .ok ()) =>
    let temporary := t.temporaryPath p tag
    match t.locate false temporary with
    | .error e => (t, .error e)
    | .ok location =>
      match t.at? location with
      | some _ => (t, .error (.obstacle .exists temporary none))
      | none => (t, .ok location)

/-- Writes a text to a path: makes the directories above, writes a temporary file in the directory,
and moves it to the path. If the move fails the temporary file is removed. The tag makes the
temporary name a fresh one. -/
def writeAtomic (t : FileTree) (tag : String) (p : Path) (text : String) :
    FileTree × Except FileError Unit :=
  match t.reserve tag p with
  | (t, .error e) => (t, .error e)
  | (t, .ok location) =>
    let written := t.setEntry location (.file (Text.Utf8.encode text))
    match written.moveFile location (t.temporaryPath p tag) p with
    | .ok t => (t, .ok ())
    | .error e => (written.eraseEntry location, .error e)

/-- Begins to write to a path as `writeAtomic` does, and stops at the text: the temporary file stays,
without any octets in it. -/
def writeAborted (t : FileTree) (tag : String) (p : Path) : FileTree × Except FileError Unit :=
  match t.reserve tag p with
  | (t, .error e) => (t, .error e)
  | (t, .ok location) => (t.setEntry location (.file []), .ok ())

/-- Removes a file or a link. -/
def removeFile (t : FileTree) (p : Path) : Except FileError FileTree :=
  match t.locate false p with
  | .error e => .error e
  | .ok location =>
    match t.at? location with
    | none => .error (.obstacle .missing p none)
    | some .directory => .error (.obstacle .isDirectory p none)
    | some _ => .ok (t.eraseEntry location)

/-- Removes a directory with everything in it; a link to a directory is left alone. -/
def removeTree (t : FileTree) (p : Path) : Except FileError FileTree :=
  match t.locate false p with
  | .error e => .error e
  | .ok location =>
    match t.at? location with
    | none => .error (.obstacle .missing p none)
    | some (.link _) => .error .linkedTree
    | some (.file _) => .error (.obstacle .notDirectory p none)
    | some .directory => .ok (t.eraseBelow location)

end ToolBindings.FileTree
