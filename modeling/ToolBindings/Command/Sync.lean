import ToolBindings.Command.Discover
import ToolBindings.Command.Generate

/-!
# Synchronising

Discovers and then generates from the fresh manifests; a discovery that fails is not followed by a
generation.
-/

namespace ToolBindings

/-- The choices of a synchronisation. -/
structure SyncOptions where
  dryRun : Bool
  prune : Bool
  failFast : Bool
  clean : Bool
  failOnCollision : Bool

namespace SyncOptions

/-- The choices for the discovery. -/
def discover (o : SyncOptions) : DiscoverOptions := ⟨o.dryRun, o.prune, o.failFast⟩

/-- The choices for the generation. -/
def generate (o : SyncOptions) : GenerateOptions := ⟨o.dryRun, o.clean, o.failOnCollision⟩

end SyncOptions

namespace CommandRun

/-- Discovers the tools of the wanted servers and generates their modules. -/
def sync (run : CommandRun) (wanted : List String) (options : SyncOptions) : Step ExitStatus :=
  fun w =>
    match run.discover wanted options.discover w with
    | (.ok .success, w) => run.generate wanted options.generate w
    | (.ok .failure, w) => (.ok .failure, w)
    | (.error crash, w) => (.error crash, w)

end CommandRun
end ToolBindings
