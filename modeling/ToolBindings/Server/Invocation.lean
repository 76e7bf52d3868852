import ToolBindings.Rpc.Client
import ToolBindings.Server.Basic

/-!
# Invocation

How calls reach the servers of a project: each with the endpoint, the headers, the timeout and the
retry policy that the settings give it.
-/

namespace ToolBindings

/-- The settings of a project, and the environment that they are used in. -/
structure Project where
  settings : Settings
  environment : Environment

namespace Project

/-- Where and how a server is called, for a tool where one is called. -/
def target (project : Project) (server : Server) (tool : Option String) :
    Except ConfigurationFault Target := do
  let endpoint ← server.resolveEndpoint project.environment
  let headers ← server.headers tool
  let retry := project.settings.retryPolicy server
  return { endpoint, headers, timeout := server.timeout, retry }

/-- Calls a tool of the server of a slug. -/
def invoke (project : Project) (slug tool : String) (arguments : Json) (c : Connection) :
    Except Fault LooseJson × Connection :=
  match project.settings.getServer slug with
  | .error fault => (.error fault, c)
  | .ok server =>
    match project.target server (some tool) with
    | .error cause => (.error (.ofConfiguration cause), c)
    | .ok target => Rpc.callTool target tool arguments c

/-- The tools that a server lists. -/
def listTools (project : Project) (server : Server) (c : Connection) :
    Except Fault (List (Entries LooseText LooseJson)) × Connection :=
  match project.target server none with
  | .error cause => (.error (.ofConfiguration cause), c)
  | .ok target => Rpc.listTools target c

end Project
end ToolBindings
