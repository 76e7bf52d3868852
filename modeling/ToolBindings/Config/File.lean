import ToolBindings.Config.Settings
import ToolBindings.FileTree.Basic
import ToolBindings.Yaml.Block

/-!
# Configuration files

The two files that configuration comes from: a global one, and a local one that is named, or else is
the nearest of its name at or above the working directory, the root left out.
-/

namespace ToolBindings

/-- The layers of configuration. -/
structure ConfigLayers where
  globalLayer : ConfigFields
  localLayer : ConfigFields

namespace ConfigFile

/-- The name of local configuration files. -/
def localName : String := "mcpforge.yaml"

/-- The global configuration file below a home directory. -/
def globalPath (home : Path) : Path := (home.child ".mcpforge").child "config.yaml"

/-- A file error that no configuration fault is made of. -/
def crash (e : FileError) : Fault := .crash (.file e)

/-- What comes of reading the octets of a file as YAML. Values are finite: a document in which an alias
makes a value a part of itself is none of these. -/
inductive Reading where
  | value (value : ConfigValue)
  /-- The text is refused. -/
  | malformed
  /-- Octets were come to that are not UTF-8. -/
  | undecodable

/-- A reader of YAML files. It decodes as it reads, so that it may refuse a text before it comes to
octets that are not UTF-8; but where all are, it comes to none. -/
structure Reader where
  read : List UInt8 → Reading
  decodes : ∀ octets text, Text.Utf8.decode? octets = some text → read octets ≠ .undecodable

/-- The reader that decodes first, and then takes the value of a text. -/
def Reader.ofTexts (value? : String → Option ConfigValue) : Reader where
  read octets :=
    match Text.Utf8.decode? octets with
    | none => .undecodable
    | some text =>
      match value? text with
      | none => .malformed
      | some value => .value value
  decodes octets text htext := by
    rw [htext]
    dsimp only
    cases value? text <;> exact nofun

/-- The reader of the program. -/
def yaml : Reader := .ofTexts Yaml.read?

/-- The map in a configuration file; an empty file holds an empty one. -/
def parse (reader : Reader) (path : Path) (octets : List UInt8) : Except Fault ConfigFields :=
  match reader.read octets with
  | .undecodable => .error (.crash .notUtf8)
  | .malformed => .error (.ofConfiguration (.unreadable path))
  | .value .null => .ok []
  | .value (.map fields) => .ok fields
  | .value _ => .error (.ofConfiguration (.notMapping path))

/-- The map in a configuration file that need not exist. -/
def load (reader : Reader) (files : FileTree) (path : Path) : Except Fault ConfigFields :=
  match files.isPresent path with
  | .error e => .error (crash e)
  | .ok false => .ok []
  | .ok true =>
    match files.read path with
    | .error _ => .error (.ofConfiguration (.unreadable path))
    | .ok octets => parse reader path octets

/-- The nearest local file at or above a directory that is not the root. The depth of the directory
bounds the search. -/
def nearestFrom (files : FileTree) : (depth : Nat) → Location → Except Fault (Option Path)
  | 0, _ => .ok none
  | depth + 1, directory =>
    if directory = [] then .ok none
    else
      let path := (Path.ofLocation directory).child localName
      match files.isPresent path with
      | .error e => .error (crash e)
      | .ok true => .ok (some path)
      | .ok false => nearestFrom files depth directory.dropLast

/-- The nearest local file at or above the working directory. -/
def nearest (files : FileTree) : Except Fault (Option Path) :=
  nearestFrom files files.here.length files.here

/-- A file that is named has to exist. -/
def checkNamed (files : FileTree) : Option Path → Except Fault Unit
  | none => .ok ()
  | some path =>
    match files.isPresent path with
    | .error e => .error (crash e)
    | .ok false => .error (.ofConfiguration (.fileNotFound path.toText))
    | .ok true => .ok ()

/-- The local layer: the file that is named, or else the nearest one. -/
def localLayer (reader : Reader) (files : FileTree) (named : Option Path) :
    Except Fault ConfigFields :=
  match named with
  | some path => load reader files path
  | none =>
    match nearest files with
    | .error fault => .error fault
    | .ok none => .ok []
    | .ok (some path) => load reader files path

/-- Both layers, as a reader reads them. -/
def layersBy (reader : Reader) (files : FileTree) (home : Path) (named : Option Path) :
    Except Fault ConfigLayers := do
  checkNamed files named
  let globalLayer ← load reader files (globalPath home)
  let localLayer ← localLayer reader files named
  return ⟨globalLayer, localLayer⟩

/-- Both layers of YAML text. -/
def layers (files : FileTree) (home : Path) (named : Option Path) : Except Fault ConfigLayers :=
  layersBy yaml files home named

/-- The settings of both layers. -/
def settingsBy (reader : Reader) (environment : Environment) (files : FileTree) (home : Path)
    (named : Option Path) : Except Fault Settings := do
  let layers ← layersBy reader files home named
  Settings.ofMerged (Settings.mergedFields environment layers.globalLayer layers.localLayer)

end ConfigFile
end ToolBindings
