import ToolBindings.Binding.Registry
import ToolBindings.Config.Settings
import ToolBindings.Source.ToolsetModule

/-!
# Generation plans

Which files a generation writes, in order: one module for each tool, a toolset and a marker for each
server's package, and the aggregate and a marker for the whole. Names are claimed in the order of
servers and tools. Where suffixes are not allowed a name that is taken ends the plan.
-/

namespace ToolBindings

/-- A tool of a server, as its manifest lists it. -/
structure Definition where
  server : String
  tool : ListedTool

/-- A tool with the class that binds it. -/
structure Descriptor where
  server : String
  tool : String
  className : String
  module : String
  path : Path
  source : String

/-- A file that a generation writes. -/
inductive PlannedFile where
  /-- A module and its dotted name. -/
  | module (path : Path) (name source : String)
  /-- The marker file of a package, unless it has one. -/
  | marker (directory : Path)

/-- The files to write, and the collision that comes after them, if one does. -/
structure Plan where
  files : List PlannedFile
  collision : Option Name.Collision

/-! ## Where generated files are -/

namespace GeneratedSettings

/-- The directory of generated files. -/
def base (g : GeneratedSettings) : Path := .ofString g.path

/-- The directory of a server's package. -/
def packagePath (g : GeneratedSettings) (server : String) : Path :=
  g.base.child (Name.package server)

/-- The file of a class of a server. -/
def classPath (g : GeneratedSettings) (server className : String) : Path :=
  (g.packagePath server).child (moduleFile className)

/-- The file of the aggregate. -/
def aggregatePath (g : GeneratedSettings) : Path := g.base.child (moduleFile aggregateName)

/-- The dotted name of a class of a server. -/
def className (g : GeneratedSettings) (server className : String) : String :=
  dottedName (trimDots g.namespaceName) (Name.package server) className

/-- The dotted name of the aggregate. -/
def aggregateModule (g : GeneratedSettings) : String :=
  trimDots g.namespaceName ++ "." ++ aggregateName

end GeneratedSettings

/-! ## Modules of tools -/

namespace Descriptor

/-- Blanks before the lines of a property map. -/
def schemaIndent : Int := 8

/-- The descriptor of a definition whose class has this name. -/
def ofDefinition (g : GeneratedSettings) (d : Definition) (className : String) : Descriptor :=
  { server := d.server
    tool := d.tool.name
    className
    module := g.className d.server className
    path := g.classPath d.server className
    source := ToolModule.write className d.server d.tool.name d.tool.description
      (Schema.propertyMapText d.tool.inputSchema schemaIndent) }

/-- The file of a descriptor. -/
def file (d : Descriptor) : PlannedFile := .module d.path d.module d.source

/-- The import of the class. -/
def classImport (d : Descriptor) : ClassImport := ⟨d.module, d.className⟩

/-- The imports of classes, sorted by dotted name. -/
def imports (descriptors : List Descriptor) : List ClassImport :=
  Text.sortedByPair (fun i => (i.module, i.className)) (descriptors.map classImport)

end Descriptor

namespace Plan

/-- Definitions by server, then by name of the tool; equal ones keep their order. -/
def ordered (definitions : List Definition) : List Definition :=
  Text.sortedByPair (fun d => (d.server, d.tool.name)) definitions

/-- Gives definitions their class names, up to the first collision. -/
def describe (g : GeneratedSettings) (suffixes : Bool) (claimed : Name.Claimed) :
    List Definition → List Descriptor × Option Name.Collision
  | [] => ([], none)
  | d :: rest =>
    match claimed.allocateTool d.server d.tool.name suffixes with
    | .error collision => ([], some collision)
    | .ok (className, claimed) =>
      let (more, collision) := describe g suffixes claimed rest
      (.ofDefinition g d className :: more, collision)

/-! ## Modules of toolsets -/

/-- The files of a server's toolset. -/
def toolsetFiles (g : GeneratedSettings) (descriptors : List Descriptor)
    (server className : String) : List PlannedFile :=
  let own := descriptors.filter (·.server == server)
  let source := ToolsetModule.write ⟨className, Descriptor.imports own⟩
  [.module (g.classPath server className) (g.className server className) source,
    .marker (g.packagePath server)]

/-- The files of the toolsets of servers, up to the first collision. -/
def toolsets (g : GeneratedSettings) (suffixes : Bool) (descriptors : List Descriptor)
    (claimed : Name.Claimed) : List String → Plan
  | [] => ⟨[], none⟩
  | server :: rest =>
    match claimed.allocateToolset server suffixes with
    | .error collision => ⟨[], some collision⟩
    | .ok (className, claimed) =>
      let more := toolsets g suffixes descriptors claimed rest
      { more with files := toolsetFiles g descriptors server className ++ more.files }

/-- The files of the aggregate. -/
def aggregateFiles (g : GeneratedSettings) (descriptors : List Descriptor) : List PlannedFile :=
  let source := ToolsetModule.write ⟨aggregateName, Descriptor.imports descriptors⟩
  [.module g.aggregatePath g.aggregateModule source, .marker g.base]

/-- The servers of descriptors in order, each once. -/
def serversOf (descriptors : List Descriptor) : List String :=
  Text.sorted (descriptors.map (·.server)).eraseDups

/-! ## The whole -/

/-- The plan for definitions. -/
def ofDefinitions (g : GeneratedSettings) (suffixes : Bool) (definitions : List Definition) :
    Plan :=
  let (descriptors, collision) := describe g suffixes .empty (ordered definitions)
  let modules := descriptors.map Descriptor.file
  if collision.isSome ∨ descriptors.isEmpty then ⟨modules, collision⟩
  else
    let more := toolsets g suffixes descriptors .empty (serversOf descriptors)
    let aggregate := if more.collision.isSome then [] else aggregateFiles g descriptors
    ⟨modules ++ more.files ++ aggregate, more.collision⟩

/-- The number of modules in a plan. -/
def moduleCount (plan : Plan) : Nat :=
  plan.files.countP fun
    | .module .. => true
    | .marker _ => false

end Plan
end ToolBindings
