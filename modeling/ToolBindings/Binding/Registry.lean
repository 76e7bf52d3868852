import ToolBindings.Binding.Import
import ToolBindings.Manifest.File
import ToolBindings.Name.Claimed

/-!
# The registry

The tools of the selected servers with the identifiers of their classes. The manifests are read anew
and the names claimed in the order in which they were claimed when the classes were generated, so
that both agree. An allowlist only leaves tools out: it never changes which names are claimed.
-/

namespace ToolBindings

/-- Which tools may be used. -/
inductive Allowlist where
  | everything
  /-- Full names of tools. -/
  | names (full : List String)
  /-- Names of tools by server; a server without a list has none. -/
  | byServer (lists : Entries String (Option (List String)))
  /-- No list at all, which shows only when a tool is checked. -/
  | unusable

namespace Allowlist

/-- The texts in a list. -/
def textsIn (items : List Json) : List String := items.filterMap Data.text?

/-- The allowlist that a value makes; an empty value allows everything. -/
def ofJson : Json → Allowlist
  | .null | .bool false => .everything
  | .bool true => .unusable
  | .int i => if i = 0 then .everything else .unusable
  | .float x => if x.isZero then .everything else .unusable
  | .text s => if s = "" then .everything else .names (s.toList.map String.singleton)
  | .list items =>
    if items.isEmpty then .everything else .names ((textsIn items).filter (· ≠ ""))
  | .map fields =>
    if fields.isEmpty then .everything
    else .byServer (fields.map fun (server, value) => (server, value.list?.map textsIn))

/-- A tool may be used. -/
def admits (allowlist : Allowlist) (server tool : String) : Except Crash Bool :=
  match allowlist with
  | .everything => .ok true
  | .names full => .ok (full.contains (server ++ "." ++ tool))
  | .byServer lists =>
    match Entries.get? server lists with
    | some (some listed) => .ok (listed.contains tool)
    | _ => .ok false
  | .unusable => .error .wrongType

end Allowlist

/-- A tool that a manifest lists, with its class. -/
structure ResolvedTool where
  server : String
  tool : String
  className : String
  identifier : String
deriving DecidableEq

/-- The full name of a class: namespace, package and class. -/
def dottedName (namespaceName package className : String) : String :=
  namespaceName ++ "." ++ package ++ "." ++ className

/-- A namespace without dots around it. -/
def trimDots (namespaceName : String) : String :=
  String.ofList
    ((namespaceName.toList.dropWhile (· == '.')).reverse.dropWhile (· == '.')).reverse

/-- The registry of a project: its manifests, and the namespace of its classes. -/
structure Registry where
  project : Project
  files : FileTree
  namespaceName : String

namespace Registry

/-- The names of the tools that a server's manifest lists, in order. A manifest that cannot be used
lists none. -/
def toolNames (registry : Registry) (server : Server) : Except Crash (List String) :=
  match server.manifestText? with
  | none => .ok []
  | some path =>
    match ManifestFile.read registry.files (.ofString path) with
    | .ok fields => .ok (Text.sorted (((ManifestFile.tools? fields).getD []).map ListedTool.name))
    | .error (.failure _) => .ok []
    | .error (.crash crash) => .error crash

/-- Claims a class name, with a suffix if need be; this never fails. -/
def claimTool (claimed : Name.Claimed) (server tool : String) : String × Name.Claimed :=
  match claimed.allocateTool server tool true with
  | .ok result => result
  | .error _ => (Name.toolBase server tool, claimed)

/-- Gives the tools of a server their class names; the allowlist says which are kept. -/
def resolveTools (registry : Registry) (allowlist : Allowlist) (server : String)
    (claimed : Name.Claimed) : List String → Except Crash (List ResolvedTool × Name.Claimed)
  | [] => .ok ([], claimed)
  | tool :: rest => do
    let (className, claimed) := claimTool claimed server tool
    let admitted ← allowlist.admits server tool
    let (resolved, claimed) ← resolveTools registry allowlist server claimed rest
    let identifier := dottedName (trimDots registry.namespaceName) (Name.package server) className
    let kept := if admitted then [⟨server, tool, className, identifier⟩] else []
    return (kept ++ resolved, claimed)

/-- Gives the tools of servers their class names, server after server. -/
def resolveServers (registry : Registry) (allowlist : Allowlist) (claimed : Name.Claimed) :
    List Server → Except Crash (List ResolvedTool)
  | [] => .ok []
  | server :: rest => do
    let names ← registry.toolNames server
    let (resolved, claimed) ← registry.resolveTools allowlist server.slug claimed names
    return resolved ++ (← resolveServers registry allowlist claimed rest)

/-- The tools of the wanted servers that the allowlist admits. -/
def resolve (registry : Registry) (wanted : List String) (allowlist : Allowlist) :
    Except Fault (List ResolvedTool) := do
  let servers ← registry.project.settings.selectServers wanted
  (registry.resolveServers allowlist .empty servers).mapError Fault.crash

/-- The identifiers of the tools of the wanted servers. -/
def identifiers (registry : Registry) (wanted : List String) (allowlist : Allowlist) :
    Except Fault (List String) :=
  (registry.resolve wanted allowlist).map (·.map ResolvedTool.identifier)

/-! ## Classes -/

/-- Classes found one after the other, the table that this leaves, and what stopped it, if anything
did. -/
structure Collected where
  classes : List ToolClass
  table : BindingTable
  fault : Option Fault

/-- The classes of resolved tools, up to the first that is not found. -/
def collect (importer : Importer) (table : BindingTable) : List ResolvedTool → Collected
  | [] => ⟨[], table, none⟩
  | tool :: rest =>
    match table.find? importer ⟨tool.server, tool.tool, tool.className⟩ tool.identifier with
    | .error fault => ⟨[], table, some fault⟩
    | .ok (none, table) => ⟨[], table, some (.ofConfiguration (.bindingNotFound tool.identifier))⟩
    | .ok (some c, table) =>
      let more := collect importer table rest
      { more with classes := c :: more.classes }

/-- The classes of the tools of the wanted servers. -/
def classes (registry : Registry) (importer : Importer) (table : BindingTable)
    (wanted : List String) (allowlist : Allowlist) : Collected :=
  match registry.resolve wanted allowlist with
  | .error fault => ⟨[], table, some fault⟩
  | .ok tools => collect importer table tools

end Registry
end ToolBindings
