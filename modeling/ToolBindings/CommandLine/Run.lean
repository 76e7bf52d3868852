import ToolBindings.CommandLine.Request
import ToolBindings.Config.File
import ToolBindings.Console.Output

/-!
# Running command lines

From the arguments to the number that a process exits with. Settings come from configuration files;
a fault in them is shown on the console, like everything that commands say. A crash ends the process
with the number for failure.
-/

namespace ToolBindings.CommandLine

/-- What a command line is run in. -/
structure Surroundings where
  environment : Environment
  home : Path
  generatedAt : String
  tag : String
  printer : Console.Printer

/-- What comes of a command line. -/
structure Outcome where
  exit : Nat
  console : String
  crash : Option Crash

namespace Outcome

/-- A crash after something was shown. -/
def crashed (console : String) (crash : Crash) : Outcome := ⟨1, console, some crash⟩

/-- An outcome whose console text may fail. -/
def shown (exit : Nat) (console : Except Crash String) : Outcome :=
  match console with
  | .ok text => ⟨exit, text, none⟩
  | .error crash => crashed "" crash

/-- An outcome without a command. -/
def ofEnding : Ending → Outcome
  | .help | .version => ⟨0, "", none⟩
  | .usage => ⟨2, "", none⟩

end Outcome

/-- The line that tells the version. -/
def versionLine : String := "mcpforge, version 0.1.0\n"

/-- A command line asks for the version and nothing before that. -/
def asksVersion (arguments : List String) : Bool :=
  match split arguments with
  | .error ending => ending = .version
  | .ok _ => false

namespace Surroundings

/-- The settings of a project, from the file that is named or the nearest one. -/
def loadSettings (s : Surroundings) (files : FileTree) (config : Option String) :
    Except Fault Settings :=
  ConfigFile.settingsBy ConfigFile.yaml s.environment files s.home (config.map Path.ofString)

/-- A configuration file that is named is no directory. -/
def checkConfig (files : FileTree) : Option String → Except Crash Bool
  | none => .ok true
  | some "" => .ok true
  | some text =>
    let path := Path.ofString text
    if path.hasNul then .error .wrongValue
    else
      match files.locate true path with
      | .ok location => .ok (files.at? location ≠ some .directory)
      | .error _ => .ok true

/-- Runs a request with settings. -/
def perform (s : Surroundings) (settings : Settings) (request : Request) (w : Workspace) :
    Outcome × Workspace :=
  let run : CommandRun := ⟨⟨settings, s.environment⟩, s.generatedAt, s.tag⟩
  match request.run run { w with notices := [] } with
  | (.ok status, w) => (.shown status.code (s.printer.text w.notices), w)
  | (.error crash, w) =>
    (.crashed ((s.printer.text w.notices).toOption.getD "") crash, w)

/-- Runs a request with the settings that configuration files give; `say` gives the message of a fault
in them. -/
def startBy (s : Surroundings) (say : ConfigurationFault → String) (config : Option String)
    (request : Request) (w : Workspace) : Outcome × Workspace :=
  match s.loadSettings w.files config with
  | .ok settings => s.perform settings request w
  | .error (.crash crash) => (.crashed "" crash, w)
  | .error (.failure (.configuration cause)) =>
    (.shown 1 (s.printer.errorLine (say cause)), w)
  | .error (.failure cause) => (.shown 1 (s.printer.text [.failed cause]), w)

/-- Runs a request with the settings that configuration files give. -/
def start (s : Surroundings) (config : Option String) (request : Request) (w : Workspace) :
    Outcome × Workspace :=
  s.startBy ConfigurationFault.message config request w

/-- Runs a command line. -/
def run (s : Surroundings) (arguments : List String) (w : Workspace) : Outcome × Workspace :=
  match split arguments with
  | .error ending => (.ofEnding ending, w)
  | .ok ⟨config, command, rest⟩ =>
    match checkConfig w.files config with
    | .error crash => (.crashed "" crash, w)
    | .ok false => (.ofEnding .usage, w)
    | .ok true =>
      match Request.read command rest with
      | .error ending => (.ofEnding ending, w)
      | .ok request => s.start config request w

end Surroundings
end ToolBindings.CommandLine
