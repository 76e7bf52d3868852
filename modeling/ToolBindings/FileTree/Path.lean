import ToolBindings.Text.Scan

/-!
# Paths

Paths as written: an anchor and the names after it. Empty names and `.` are dropped when a text
becomes a path, `..` stays. A `Location` is a place in a tree, by the names that lead to it from the
root.
-/

namespace ToolBindings

/-- The names that lead to a place from the root. -/
abbrev Location := List String

/-- A path: what stands before its first name (nothing for a relative path), and its names. -/
structure Path where
  anchor : String
  names : List String
deriving DecidableEq

namespace Path

/-- The anchor of a text: two slashes at the front are kept apart from one, or three and more. -/
def anchorOf : List Char → String
  | '/' :: '/' :: '/' :: _ => "/"
  | '/' :: '/' :: _ => "//"
  | '/' :: _ => "/"
  | _ => ""

/-- The path that a text writes. -/
def ofString (text : String) : Path :=
  let pieces := (Text.splitOn '/' text.toList).map String.ofList
  ⟨anchorOf text.toList, pieces.filter fun piece => piece ≠ "" ∧ piece ≠ "."⟩

/-- The text of a path. -/
def toText (p : Path) : String :=
  if p.names.isEmpty then (if p.anchor = "" then "." else p.anchor)
  else p.anchor ++ Text.joinWith "/" p.names

/-- The path of something inside. -/
def child (p : Path) (name : String) : Path := ⟨p.anchor, p.names ++ [name]⟩

/-- The path without its last name; a path without names is its own parent. -/
def parent (p : Path) : Path := ⟨p.anchor, p.names.dropLast⟩

/-- The last name, empty if there is none. -/
def lastName (p : Path) : String := p.names.getLast?.getD ""

/-- The path of a location. -/
def ofLocation (location : Location) : Path := ⟨"/", location⟩

/-- The names after `..` has taken away the name before it; at the root it takes nothing. -/
def fold (start : Location) (names : List String) : Location :=
  names.foldl (fun location name => if name = ".." then location.dropLast else location ++ [name])
    start

/-- The path from the root, worked out on the text alone, for a working directory. -/
def absolute (here : Location) (p : Path) : Path :=
  if p.anchor = "" then ⟨"/", fold here p.names⟩ else ⟨p.anchor, fold [] p.names⟩

/-- Whether a NUL stands in the path, which no file can have in its name. -/
def hasNul (p : Path) : Bool := p.names.any fun name => name.toList.contains '\x00'

/-- The parent of a path with names is shorter. -/
theorem length_parent_lt {p : Path} (h : p.parent ≠ p) :
    p.parent.names.length < p.names.length := by
  cases hn : p.names with
  | nil =>
    exact absurd (by cases p; simp_all [parent]) h
  | cons name rest => simp [parent, hn]

end Path
end ToolBindings
