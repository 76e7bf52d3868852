import ToolBindings.Command.Health
import ToolBindings.Command.Sync
import ToolBindings.CommandLine.Options

/-!
# Requests

What a command line asks for: help, the version, or a command with its choices.
-/

namespace ToolBindings.CommandLine

/-- A command with its choices. -/
inductive Request where
  | discover (servers : List String) (options : DiscoverOptions)
  | generate (servers : List String) (options : GenerateOptions)
  | sync (servers : List String) (options : SyncOptions)
  | health (servers : List String) (failFast : Bool)

/-- Why no command is run. -/
inductive Ending where
  | help
  | version
  | usage
deriving DecidableEq

/-- The arguments before and after the name of a command. -/
structure Split where
  config : Option String
  command : String
  rest : List String

/-- The option that asks for help, which every command has. -/
def helpOption : OptionSpec := ⟨"--help", none, false⟩

/-- The option that selects servers. -/
def serverOption : OptionSpec := ⟨"--server", some 's', true⟩

/-- An option without a value. -/
def flagOption (long : String) : OptionSpec := ⟨long, none, false⟩

/-- The options before the name of a command. -/
def mainOptions : List OptionSpec :=
  [⟨"--config", some 'c', true⟩, flagOption "--verbose", flagOption "--version", helpOption]

/-- The option among those that end everything that was given first. -/
def firstEnding? (options : List GivenOption) : Option Ending :=
  options.findSome? fun o =>
    if o.long = "--help" then some .help
    else if o.long = "--version" then some .version
    else none

/-- Splits a command line at the name of its command. -/
def split (arguments : List String) : Except Ending Split :=
  match Arguments.read? mainOptions false arguments with
  | none => .error .usage
  | some a =>
    match firstEnding? a.options, a.positional with
    | some ending, _ => .error ending
    | none, [] => .error .usage
    | none, command :: rest => .ok ⟨a.lastValue? "--config", command, rest⟩

namespace Request

/-- The flags of a command. -/
def flags? : String → Option (List String)
  | "discover" => some ["--dry-run", "--prune", "--fail-fast"]
  | "generate" => some ["--dry-run", "--clean", "--fail-on-collision"]
  | "sync" => some ["--dry-run", "--prune", "--fail-fast", "--clean", "--fail-on-collision"]
  | "health" => some ["--fail-fast"]
  | _ => none

/-- The request that the arguments of a command make. -/
def ofArguments (command : String) (a : Arguments) : Request :=
  let servers := a.values "--server"
  let o : SyncOptions := {
    dryRun := a.has "--dry-run"
    prune := a.has "--prune"
    failFast := a.has "--fail-fast"
    clean := a.has "--clean"
    failOnCollision := a.has "--fail-on-collision" }
  match command with
  | "discover" => .discover servers o.discover
  | "generate" => .generate servers o.generate
  | "health" => .health servers o.failFast
  | _ => .sync servers o

/-- Reads the arguments of a command. A command takes options only. -/
def read (command : String) (arguments : List String) : Except Ending Request :=
  match flags? command with
  | none => .error .usage
  | some flags =>
    match Arguments.read? ([serverOption, helpOption] ++ flags.map flagOption) true arguments with
    | none => .error .usage
    | some a =>
      if a.has "--help" then .error .help
      else if a.positional.isEmpty then .ok (ofArguments command a)
      else .error .usage

/-- Runs a request. -/
def run (request : Request) (r : CommandRun) : Step ExitStatus :=
  match request with
  | .discover servers options => r.discover servers options
  | .generate servers options => r.generate servers options
  | .sync servers options => r.sync servers options
  | .health servers failFast => r.health servers failFast

end Request
end ToolBindings.CommandLine
