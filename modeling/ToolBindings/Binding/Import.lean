import ToolBindings.Binding.Table
import ToolBindings.FileTree.Basic
import ToolBindings.Name.Basic
import ToolBindings.Source.ToolsetModule

/-!
# Imports

Finding generated modules below a directory by their dotted names, and reading what they define. A
package is a directory; one with a marker file comes before a module file of the same name, one
without comes after it.
-/

namespace ToolBindings

/-- Where a dotted name leads. -/
inductive ModulePlace where
  | package (directory : Path)
  | file (path : Path)
deriving DecidableEq

/-- What a module defines. -/
inductive LoadedModule where
  | package
  | tool (contents : ToolClass)
  | toolset (className : String) (classes : List ToolClass)

/-- Why an import fails. -/
inductive ImportFault where
  /-- Nothing is found under this dotted name. -/
  | missing (name : String)
  /-- A name that starts with a dot has no package to start from. -/
  | relative
  /-- A module is found but does not define the name. -/
  | undefined
  | badSource
deriving DecidableEq

namespace ImportFault

/-- An import fault as a crash. -/
def crash : ImportFault → Crash
  | .missing _ => .missingModule
  | .relative => .wrongType
  | .undefined => .missingName
  | .badSource => .badSource

end ImportFault

/-- The marker file of a package. -/
def packageMarker : String := "__init__.py"

/-- The file of a module. -/
def moduleFile (name : String) : String := name ++ ".py"

/-! ## Names in source -/

/-- An identifier, where some characters beyond ASCII are letters. -/
def isIdentifier (isLetter : Char → Bool) (name : String) : Bool :=
  let isWide (c : Char) := 128 ≤ c.toNat && isLetter c
  match name.toList with
  | [] => false
  | c :: rest =>
    (c.isAlpha || c == '_' || isWide c) && rest.all (fun c => c.isAlphanum || c == '_' || isWide c) &&
      !(Name.keywords.contains name)

/-- How the names in a source are read: each identifier stands for a name. Identifiers of ASCII
characters stand for themselves; which others there are, and for which normal forms they stand, is
for a version of Unicode to say. -/
structure NameRule where
  nameOf? : String → Option String
  ascii : ∀ name, name.toList.all (·.toNat < 128) = true →
    nameOf? name = if isIdentifier (fun _ => false) name then some name else none
  letters : ∀ name, (nameOf? name).isSome = true →
    ∀ c ∈ name.toList, c.toNat < 128 → c.isAlphanum = true ∨ c = '_'

/-- Letters beyond ASCII make no difference to a name without them. -/
theorem isIdentifier_of_ascii {name : String} (h : name.toList.all (·.toNat < 128) = true)
    (isLetter : Char → Bool) : isIdentifier isLetter name = isIdentifier (fun _ => false) name := by
  have hnarrow : ∀ c ∈ name.toList, (decide (128 ≤ c.toNat) && isLetter c) = false := by
    intro c hc
    have hlt : c.toNat < 128 := of_decide_eq_true (List.all_eq_true.1 h c hc)
    simp [Nat.not_le.2 hlt]
  rw [isIdentifier, isIdentifier]
  generalize name.toList = chars at hnarrow
  cases chars with
  | nil => rfl
  | cons c rest =>
    rw [List.forall_mem_cons] at hnarrow
    have hrest : rest.all (fun c => c.isAlphanum || c == '_' || (128 ≤ c.toNat && isLetter c))
        = rest.all (fun c => c.isAlphanum || c == '_' || (128 ≤ c.toNat && false)) := by
      rw [Bool.eq_iff_iff, List.all_eq_true, List.all_eq_true]
      refine forall₂_congr fun c hc => ?_
      rw [hnarrow.2 c hc, Bool.and_false]
    simp only [hnarrow.1, hrest, Bool.and_false]

theorem letter_of_isIdentifier {isLetter : Char → Bool} {name : String}
    (h : isIdentifier isLetter name = true) {c : Char} (hc : c ∈ name.toList)
    (hascii : c.toNat < 128) : c.isAlphanum = true ∨ c = '_' := by
  have hnarrow : (decide (128 ≤ c.toNat) && isLetter c) = false := by
    simp [Nat.not_le.2 hascii]
  rw [isIdentifier] at h
  split at h
  · cases h
  · rename_i first rest hname
    simp only [Bool.and_eq_true, List.all_eq_true] at h
    rw [hname] at hc
    rcases List.mem_cons.1 hc with rfl | hc
    · have hfirst := h.1.1
      rw [hnarrow, Bool.or_false, Bool.or_eq_true, beq_iff_eq] at hfirst
      exact hfirst.imp_left fun halpha => by simp [Char.isAlphanum, halpha]
    · have hother := h.1.2 c hc
      rwa [hnarrow, Bool.or_false, Bool.or_eq_true, beq_iff_eq] at hother

/-- The rule by which these characters beyond ASCII are letters, and every identifier stands for
itself. -/
def NameRule.ofLetters (isLetter : Char → Bool) : NameRule where
  nameOf? name := if isIdentifier isLetter name then some name else none
  ascii name hascii := by rw [isIdentifier_of_ascii hascii]
  letters name hname c hc hascii := by
    split at hname
    · rename_i hidentifier
      exact letter_of_isIdentifier hidentifier hc hascii
    · cases hname

/-! ## Places of modules -/

/-- A tree with generated modules, the directory that dotted names start from, and how names in the
modules are read. -/
structure Importer where
  files : FileTree
  root : Path
  rule : NameRule

namespace Importer

/-- The names between the dots of a dotted name. -/
def namesOf (dotted : String) : List String :=
  (Text.splitOn '.' dotted.toList).map String.ofList

/-- What a name leads to in a directory. -/
def lookUp (importer : Importer) (directory : Path) (name : String) : Option ModulePlace :=
  let package := directory.child name
  let file := directory.child (moduleFile name)
  let isPackage := (importer.files.isDirectory package).toOption.getD false
  let isFile (path : Path) := (importer.files.isFile path).toOption.getD false
  if isPackage ∧ isFile (package.child packageMarker) then some (.package package)
  else if isFile file then some (.file file)
  else if isPackage then some (.package package)
  else none

/-- Follows names from a directory; `done` are the names that lead to it. -/
def follow (importer : Importer) (directory : Path) (done : List String) :
    List String → Except ImportFault ModulePlace
  | [] => .ok (.package directory)
  | name :: rest =>
    let done := done ++ [name]
    match importer.lookUp directory name with
    | none => .error (.missing (Text.joinWith "." done))
    | some (.package inner) => follow importer inner done rest
    | some (.file path) =>
      match rest with
      | [] => .ok (.file path)
      | next :: _ => .error (.missing (Text.joinWith "." (done ++ [next])))

/-- Where a dotted name leads. -/
def locate (importer : Importer) (dotted : String) : Except ImportFault ModulePlace :=
  if dotted.toList.head? = some '.' then .error .relative
  else importer.follow importer.root [] (namesOf dotted)

/-- The text of a file. -/
def textOf (importer : Importer) (path : Path) : Except ImportFault String :=
  match (importer.files.read path).toOption.bind Text.Utf8.decode? with
  | some text => .ok text
  | none => .error .badSource

/-- The dotted name that an import in a module of `package` means; a name that starts with a dot
starts from that package. -/
def meant? (rule : NameRule) (package : List String) (module : String) : Option String :=
  match namesOf module with
  | "" :: names => (names.mapM rule.nameOf?).map fun read => Text.joinWith "." (package ++ read)
  | names => (names.mapM rule.nameOf?).map (Text.joinWith ".")

/-! ## Modules -/

/-- The module of one tool. -/
def loadTool (importer : Importer) (dotted : String) : Except ImportFault ToolClass := do
  match ← importer.locate dotted with
  | .package _ => .error .undefined
  | .file path =>
    match ToolModule.read? (← importer.textOf path) with
    | some m => return .ofModule dotted m
    | none => .error .badSource

/-- A class that a module of `package` imports. -/
def loadImport (importer : Importer) (package : List String) (i : ClassImport) :
    Except ImportFault ToolClass := do
  match meant? importer.rule package i.module with
  | none => .error .badSource
  | some dotted =>
    let c ← importer.loadTool dotted
    if c.className = i.className then return c else .error .undefined

/-- The module of a dotted name. -/
def load (importer : Importer) (dotted : String) : Except ImportFault LoadedModule := do
  match ← importer.locate dotted with
  | .package _ => return .package
  | .file path =>
    let text ← importer.textOf path
    match ToolModule.read? text, ToolsetModule.read? text with
    | some m, _ => return .tool (.ofModule dotted m)
    | none, some m =>
      return .toolset m.className (← m.imports.mapM (importer.loadImport (namesOf dotted).dropLast))
    | none, none => .error .badSource

/-- The module of a dotted name, or nothing if it or a package on the way to it is missing. -/
def load? (importer : Importer) (dotted : String) : Except Crash (Option LoadedModule) :=
  match importer.load dotted with
  | .ok m => .ok (some m)
  | .error (.missing name) =>
    if (Text.dropText? (name ++ ".").toList (dotted ++ ".").toList).isSome then .ok none
    else .error .missingModule
  | .error fault => .error fault.crash

end Importer

/-! ## Tables from modules -/

/-- The name of the toolset of all servers. -/
def aggregateName : String := "McpToolset"

namespace BindingTable

/-- The classes of a toolset that a module defines under a name. -/
def classesOf (className : String) : LoadedModule → Except Crash (List ToolClass)
  | .toolset name classes => if name = className then .ok classes else .error .missingAttribute
  | _ => .error .missingAttribute

/-- The classes that the aggregate of a namespace lists; none if it has not been generated. -/
def load (importer : Importer) (namespaceName : String) : Except Fault BindingTable :=
  match importer.load? (namespaceName ++ "." ++ aggregateName) with
  | .error crash => .error (.crash crash)
  | .ok none => .ok empty
  | .ok (some m) =>
    match classesOf aggregateName m with
    | .error crash => .error (.crash crash)
    | .ok classes => (ofClasses classes).mapError Fault.ofConfiguration

/-- The class of a key: from the table, or else from the module of this dotted name, which is then
added to the table. -/
def find? (table : BindingTable) (importer : Importer) (key : BindingKey) (module : String) :
    Except Fault (Option ToolClass × BindingTable) :=
  match table.get? key with
  | some c => .ok (some c, table)
  | none =>
    match importer.load? module with
    | .error crash => .error (.crash crash)
    | .ok (some (.tool c)) =>
      if c.key = key then
        match table.register c with
        | .ok table => .ok (some c, table)
        | .error cause => .error (.ofConfiguration cause)
      else .ok (none, table)
    | .ok _ => .ok (none, table)

end BindingTable
end ToolBindings
