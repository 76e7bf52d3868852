import ToolBindings.Literal.Lexer
import ToolBindings.Source.ToolModule

/-!
# Modules of toolsets

The source module of a toolset: imports of tool classes and the list of them, in one order.
-/

namespace ToolBindings

/-- A class and the dotted name of the module that defines it. -/
structure ClassImport where
  module : String
  className : String
deriving DecidableEq

/-- What the module of a toolset defines. -/
structure ToolsetModule where
  className : String
  imports : List ClassImport

namespace ToolsetModule

/-- The import that every toolset needs. -/
def baseImport : String := "from mcpforge.tools.toolset import StaticToolset\n\n\n"

/-- The line that imports a class. -/
def importLine (i : ClassImport) : String :=
  "from " ++ i.module ++ " import " ++ i.className ++ "\n"

/-- The text of the list of classes. -/
def classList : List ClassImport → String
  | [] => "[]"
  | imports =>
    "[\n" ++ String.join (imports.map fun i => "        " ++ i.className ++ ",\n") ++ "    ]"

/-- The text of a toolset module. -/
def write (m : ToolsetModule) : String :=
  generatedHeader ++ "\n" ++ String.join (m.imports.map importLine) ++ baseImport ++
    "class " ++ m.className ++ "(StaticToolset):\n    classes = " ++ classList m.imports ++ "\n"

/-- The characters up to the end of the line, and those after it. -/
def line (s : List Char) : List Char × List Char :=
  (s.takeWhile (· ≠ '\n'), (s.dropWhile (· ≠ '\n')).drop 1)

/-- Splits a text at the first place where `mark` stands. -/
def splitAtText? (mark : List Char) : List Char → Option (List Char × List Char)
  | [] => if mark = [] then some ([], []) else none
  | c :: rest =>
    match Text.dropText? mark (c :: rest) with
    | some after => some ([], after)
    | none => (splitAtText? mark rest).map fun (before, after) => (c :: before, after)

/-- The import on a line. -/
def importOf? (s : List Char) : Option ClassImport := do
  let rest ← Text.dropText? "from ".toList s
  let (module, className) ← splitAtText? " import ".toList rest
  some ⟨String.ofList module, String.ofList className⟩

/-- The imports at the front of a text, and the text after the one that every toolset needs; the
length of the text bounds the lines. -/
def imports? : (lines : Nat) → List Char → Option (List ClassImport × List Char)
  | 0, _ => none
  | lines + 1, s =>
    match Text.dropText? baseImport.toList s with
    | some rest => some ([], rest)
    | none =>
      let (first, rest) := line s
      match importOf? first, imports? lines rest with
      | some i, some (is, after) => some (i :: is, after)
      | _, _ => none

/-- Reads the text of a module: the class is listed exactly as imported. -/
def read? (source : String) : Option ToolsetModule := do
  let s ← Text.dropText? (generatedHeader ++ "\n").toList source.toList
  let (imports, s) ← imports? (s.length + 1) s
  let s ← Text.dropText? "class ".toList s
  let className := String.ofList (s.takeWhile Literal.isNameChar)
  let s ← Text.dropText? "(StaticToolset):\n    classes = ".toList (s.dropWhile Literal.isNameChar)
  if s = (classList imports ++ "\n").toList then some ⟨className, imports⟩ else none

end ToolsetModule
end ToolBindings
