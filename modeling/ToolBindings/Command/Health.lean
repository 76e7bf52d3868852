import ToolBindings.Command.Basic

/-!
# Checking health

A server is healthy if it lists its tools.
-/

namespace ToolBindings.CommandRun

/-- Asks a server for its tools. -/
def checkServer (run : CommandRun) (server : Server) (w : Workspace) :
    Except Fault Unit × Workspace :=
  match run.project.listTools server w.connection with
  | (.error fault, connection) => (.error fault, { w with connection })
  | (.ok tools, connection) =>
    (.ok (), { w with connection }.say (.healthy server.slug tools.length))

/-- Checks the wanted servers. -/
def health (run : CommandRun) (wanted : List String) (failFast : Bool) : Step ExitStatus :=
  run.withServers wanted "health check" fun selected w =>
    match eachServer run.checkServer .unhealthy failFast selected w with
    | (.error crash, w) => (.error crash, w)
    | (.ok visits, w) => (.ok (.ofFailed (visits ≠ .allWell)), w)

end ToolBindings.CommandRun
