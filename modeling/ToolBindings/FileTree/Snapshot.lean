import ToolBindings.Data.Sorted
import ToolBindings.FileTree.Basic

/-!
# Snapshots

What a tree shows below a place: the text of each file by its path, and each empty directory.
Comparing two snapshots gives what was written and what was removed.
-/

namespace ToolBindings

/-- Texts of files by path; an empty directory has a slash at the end of its path and no text. -/
abbrev Snapshot := Entries String (Option String)

namespace FileTree

/-- Whether anything stands directly below a place. -/
def hasChildren (t : FileTree) (location : Location) : Bool :=
  t.entries.any fun (l, _) => l ≠ [] && l.dropLast == location

/-- What one place adds to a snapshot. A link shows the file that it leads to. -/
def shown (t : FileTree) (place : Location) : FileEntry → Option (Option String)
  | .file octets => some (some (Text.Utf8.decodeLossy octets))
  | .directory => if t.hasChildren place then none else some none
  | .link _ =>
    match t.walk true mostLinks [] place with
    | .ok location =>
      match t.at? location with
      | some (.file octets) => some (some (Text.Utf8.decodeLossy octets))
      | _ => none
    | .error _ => none

/-- The snapshot of what is below a place. -/
def snapshot (t : FileTree) (root : Location) : Snapshot :=
  t.entries.filterMap fun (place, entry) =>
    if root.isPrefixOf place ∧ place ≠ root then
      (t.shown place entry).map fun text =>
        let path := Text.joinWith "/" (place.drop root.length)
        (if text.isNone then path ++ "/" else path, text)
    else none

end FileTree

namespace Snapshot

/-- The entries of a snapshot that are new or other than before. -/
def written (before after : Snapshot) : Snapshot :=
  after.filter fun (path, text) => Entries.get? path before ≠ some text

/-- The paths that are gone, in order. -/
def removed (before after : Snapshot) : List String :=
  Text.sorted ((Entries.keys before).filter fun path => !Entries.has path after)

end Snapshot
end ToolBindings
