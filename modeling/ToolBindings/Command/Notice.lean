import ToolBindings.Fault

/-!
# Notices

What commands say while they run, and the tone in which they say it.
-/

namespace ToolBindings

/-- How something is said. -/
inductive Tone where
  | plain
  | good
  | caution
  | bad
deriving DecidableEq

/-- What a command says. -/
inductive Notice where
  /-- No server was selected for the purpose. -/
  | noServers (purpose : String)
  /-- The command failed as a whole. -/
  | failed (cause : Failure)
  | discoverFailed (server : String) (cause : Failure)
  | wouldDiscover (server : String) (manifest : Path) (tools : Nat)
  | discovered (server : String) (manifest : Path)
  | wouldPrune (manifest : Path)
  | pruned (manifest : Path)
  | manifestNotSet (server : String)
  | manifestNotFound (server : String) (manifest : Path)
  | manifestFailed (server : String) (cause : Failure)
  /-- What the manifest has for tools is no list. -/
  | toolsNotListed (server : String)
  | wouldGenerate (path : Path) (module : String)
  | generated (path : Path)
  | generatedCount (modules : Nat)
  | notGenerated (error : FileError)
  | wouldClean (path : Path)
  | cleaned (path : Path)
  | notCleaned (path : Path) (error : FileError)
  | healthy (server : String) (tools : Nat)
  | unhealthy (server : String) (cause : Failure)

namespace Notice

/-- The tone of a notice. -/
def tone : Notice → Tone
  | .noServers _ | .manifestNotSet _ | .manifestNotFound .. | .toolsNotListed _ | .notCleaned .. =>
    .caution
  | .failed _ | .discoverFailed .. | .manifestFailed .. | .notGenerated _ | .unhealthy .. => .bad
  | .generatedCount _ | .healthy .. => .good
  | .wouldDiscover .. | .discovered .. | .wouldPrune _ | .pruned _ | .wouldGenerate ..
  | .generated _ | .wouldClean _ | .cleaned _ => .plain

/-- A number of tools in words. -/
def toolsText (n : Nat) : String := countText n ++ " tool" ++ if n = 1 then "" else "s"

/-- The text of a notice. -/
def text : Notice → String
  | .noServers purpose => "No MCP servers selected for " ++ purpose ++ "."
  | .failed cause => cause.message
  | .discoverFailed server cause => "Discover failed for [" ++ server ++ "]: " ++ cause.message
  | .wouldDiscover server manifest tools =>
    "[dry-run] " ++ server ++ " => " ++ manifest.toText ++ " (tools: " ++ countText tools ++ ")"
  | .discovered server manifest => "Discovered: " ++ server ++ " -> " ++ manifest.toText
  | .wouldPrune manifest => "[dry-run] prune " ++ manifest.toText
  | .pruned manifest => "Pruned: " ++ manifest.toText
  | .manifestNotSet server => "Skipping [" ++ server ++ "] - missing `manifest` path."
  | .manifestNotFound server manifest =>
    "Skipping [" ++ server ++ "] - manifest not found: " ++ manifest.toText
  | .manifestFailed server cause => "Generate failed for [" ++ server ++ "]: " ++ cause.message
  | .toolsNotListed server => "Skipping [" ++ server ++ "] - invalid manifest `tools` shape."
  | .wouldGenerate path module => "[dry-run] " ++ path.toText ++ " => " ++ module
  | .generated path => "Generated: " ++ path.toText
  | .generatedCount modules => "Generated tools: " ++ countText modules
  | .notGenerated error => "Unable to write generated files: " ++ error.message
  | .wouldClean path => "[dry-run] clean " ++ path.toText
  | .cleaned path => "Cleaned: " ++ path.toText
  | .notCleaned path error => "Skipping clean for [" ++ path.toText ++ "]: " ++ error.message
  | .healthy server tools => "Healthy: " ++ server ++ " (" ++ toolsText tools ++ ")"
  | .unhealthy server cause => "Unhealthy: " ++ server ++ " - " ++ cause.message

end Notice
end ToolBindings
