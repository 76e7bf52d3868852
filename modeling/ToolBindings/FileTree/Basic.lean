import ToolBindings.Data.Entries
import ToolBindings.FileTree.Error
import ToolBindings.Text.Utf8

/-!
# File trees

A tree of files, directories and links with a working directory, and what can be asked of it. `walk`
follows a path through the tree; every question and every change goes through it.
-/

namespace ToolBindings

/-- What stands at a place. -/
inductive FileEntry where
  | file (octets : List UInt8)
  | directory
  | link (target : String)
deriving DecidableEq

/-- A tree of files and the working directory. The root is a directory that is always there. -/
structure FileTree where
  entries : Entries Location FileEntry
  here : Location
deriving DecidableEq

namespace FileTree

/-! ## Places -/

/-- What stands at a place. -/
def at? (t : FileTree) (location : Location) : Option FileEntry :=
  if location = [] then some .directory else Entries.get? location t.entries

/-- Puts something at a place. -/
def setEntry (t : FileTree) (location : Location) (entry : FileEntry) : FileTree :=
  { t with entries := Entries.put location entry t.entries }

/-- Takes away what stands at a place. -/
def eraseEntry (t : FileTree) (location : Location) : FileTree :=
  { t with entries := Entries.erase location t.entries }

/-- Takes away what stands at a place and below it. -/
def eraseBelow (t : FileTree) (location : Location) : FileTree :=
  { t with entries := t.entries.filter fun (l, _) => !location.isPrefixOf l }

/-- The longest name of a file, in octets. -/
def longestName : Nat := 255

/-- The longest path, in octets. -/
def longestPath : Nat := 4095

/-- The most links that one path may lead through. -/
def mostLinks : Nat := 40

/-! ## Walking -/

/-- Follows names from a place up to the first link, and from there on as `follow` says for the
place that the link starts from, its names and the rest. The place reached need not be taken, but
everything on the way is a directory. A link at the very end is followed only if asked. -/
def walkBy (t : FileTree) (followLast : Bool)
    (follow : Location → List String → Except Obstacle Location) (place : Location) :
    List String → Except Obstacle Location
  | [] => .ok place
  | name :: rest =>
    match t.at? place with
    | none => .error .missing
    | some .directory =>
      if name = ".." then walkBy t followLast follow place.dropLast rest
      else if longestName < name.utf8ByteSize then .error .nameTooLong
      else
        match t.at? (place ++ [name]) with
        | some (.link target) =>
          if rest = [] ∧ !followLast then .ok (place ++ [name])
          else
            let next := Path.ofString target
            follow (if next.anchor = "" then place else []) (next.names ++ rest)
        | _ => walkBy t followLast follow (place ++ [name]) rest
    | some _ => .error .notDirectory

/-- Follows names from a place, through at most `links` links. -/
def walk (t : FileTree) (followLast : Bool) :
    (links : Nat) → Location → List String → Except Obstacle Location
  | 0 => t.walkBy followLast fun _ _ => .error .tooManyLinks
  | links + 1 => t.walkBy followLast (walk t followLast links)

/-- The place that a path leads to. -/
def locate (t : FileTree) (followLast : Bool) (p : Path) : Except FileError Location :=
  if p.hasNul then .error .embeddedNul
  else if longestPath < p.toText.utf8ByteSize then .error (.obstacle .nameTooLong p none)
  else
    match t.walk followLast mostLinks (if p.anchor = "" then t.here else []) p.names with
    | .ok location => .ok location
    | .error what => .error (.obstacle what p none)

/-! ## Questions -/

/-- What a path leads to, or nothing if it leads nowhere. -/
def find? (t : FileTree) (p : Path) : Except FileError (Option FileEntry) :=
  match t.locate true p with
  | .ok location => .ok (t.at? location)
  | .error .embeddedNul => .ok none
  | .error (.obstacle what path target) =>
    match what with
    | .missing | .notDirectory | .tooManyLinks => .ok none
    | _ => .error (.obstacle what path target)
  | .error e => .error e

/-- Something is there. -/
def isPresent (t : FileTree) (p : Path) : Except FileError Bool := (t.find? p).map Option.isSome

/-- A file is there. -/
def isFile (t : FileTree) (p : Path) : Except FileError Bool :=
  (t.find? p).map fun
    | some (.file _) => true
    | _ => false

/-- A directory is there. -/
def isDirectory (t : FileTree) (p : Path) : Except FileError Bool :=
  (t.find? p).map fun
    | some .directory => true
    | _ => false

/-- The octets of a file. -/
def read (t : FileTree) (p : Path) : Except FileError (List UInt8) :=
  match t.locate true p with
  | .error e => .error e
  | .ok location =>
    match t.at? location with
    | some (.file octets) => .ok octets
    | some .directory => .error (.obstacle .isDirectory p none)
    | _ => .error (.obstacle .missing p none)

end FileTree
end ToolBindings
