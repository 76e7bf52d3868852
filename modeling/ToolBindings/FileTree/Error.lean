import ToolBindings.FileTree.Path
import ToolBindings.Literal.Quoted
import ToolBindings.Text.Digits

/-!
# File errors

Why a file operation fails, and how that is said.
-/

namespace ToolBindings

/-- What stands in the way of a file operation. -/
inductive Obstacle where
  | missing
  | busy
  | exists
  | notDirectory
  | isDirectory
  | nameTooLong
  | tooManyLinks
deriving DecidableEq

namespace Obstacle

/-- The number of an obstacle. -/
def number : Obstacle → Nat
  | .missing => 2
  | .busy => 16
  | .exists => 17
  | .notDirectory => 20
  | .isDirectory => 21
  | .nameTooLong => 36
  | .tooManyLinks => 40

/-- The words for an obstacle. -/
def words : Obstacle → String
  | .missing => "No such file or directory"
  | .busy => "Device or resource busy"
  | .exists => "File exists"
  | .notDirectory => "Not a directory"
  | .isDirectory => "Is a directory"
  | .nameTooLong => "File name too long"
  | .tooManyLinks => "Too many levels of symbolic links"

end Obstacle

/-- A failed file operation. -/
inductive FileError where
  /-- The path holds a NUL. -/
  | embeddedNul
  /-- A tree cannot be removed through a link to it. -/
  | linkedTree
  /-- An obstacle at a path, on the way to another for a move. -/
  | obstacle (what : Obstacle) (path : Path) (target : Option Path)
deriving DecidableEq

namespace FileError

/-- A path in quotes. -/
def quotedPath (p : Path) : String := String.ofList (Literal.quoted p.toText)

/-- The text of a file error. -/
def message : FileError → String
  | .embeddedNul => "embedded null byte"
  | .linkedTree => "Cannot call rmtree on a symbolic link"
  | .obstacle what path target =>
    "[Errno " ++ String.ofList (Text.decimal what.number) ++ "] " ++ what.words ++ ": " ++
      quotedPath path ++
      match target with
      | none => ""
      | some target => " -> " ++ quotedPath target

end FileError
end ToolBindings
