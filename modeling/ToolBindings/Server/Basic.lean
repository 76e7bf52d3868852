import ToolBindings.Config.Settings
import ToolBindings.Data.Sorted
import ToolBindings.Server.Auth
import ToolBindings.Server.Retry

/-!
# Servers

The servers of a project, in the order of their slugs, and what each of them is configured with: its
endpoint, its manifest, its headers and its retry policy.
-/

namespace ToolBindings

/-- A configured server. -/
structure Server where
  slug : String
  endpoint : Option String
  endpointVariable : Option String
  timeout : Binary64
  auth : Option (Entries String ConfigValue)
  retry : Entries String ConfigValue
  manifest : Option String

namespace Server

/-- Sixty seconds. -/
def defaultTimeout : Binary64 := .ofRatio false 60 1

/-- The server in a map, under a slug that no field of the map changes. -/
def ofFields (slug : String) (fields : ConfigFields) : Field.Checked Server :=
  let endpoint := Field.optionalText "endpoint" fields
  let variableName := Field.optionalText "endpoint_env" fields
  let timeout := Field.number "timeout" defaultTimeout fields
  let auth := Field.optionalMap "auth" fields
  let retry := Field.map "retry" [] fields
  let manifest := Field.optionalText "manifest" fields
  match endpoint, variableName, timeout, auth, retry, manifest with
  | .ok endpoint, .ok endpointVariable, .ok timeout, .ok auth, .ok retry, .ok manifest =>
    .ok { slug, endpoint, endpointVariable, timeout, auth, retry, manifest }
  | _, _, _, _, _, _ =>
    .error (Field.faults endpoint ++ Field.faults variableName ++ Field.faults timeout ++
      Field.faults auth ++ Field.faults retry ++ Field.faults manifest)

/-- The manifest path, if one is configured that is not empty. -/
def manifestText? (server : Server) : Option String :=
  match server.manifest with
  | some path => if path = "" then none else some path
  | none => none

/-- The path of the manifest. -/
def manifestPath (server : Server) : Except ConfigurationFault Path :=
  match server.manifestText? with
  | some path => .ok (.ofString path)
  | none => .error (.missingManifest server.slug)

/-- A text that is not empty. -/
def nonEmpty? (text : Option String) : Option String := text.filter (· ≠ "")

/-- The endpoint: the configured one, or else the value of the variable that is configured. -/
def resolveEndpoint (environment : Environment) (server : Server) :
    Except ConfigurationFault String :=
  let ofVariable := (nonEmpty? server.endpointVariable).bind fun name =>
    Entries.get? name environment
  match (nonEmpty? server.endpoint).or (nonEmpty? ofVariable) with
  | some endpoint => .ok endpoint
  | none => .error (.missingEndpoint server.slug)

/-- The headers of requests to the server, for a tool where one is called. -/
def headers (server : Server) (tool : Option String) : Except ConfigurationFault Headers :=
  AuthStrategies.builtIn.headers server.auth (some server.slug) tool

/-- A retry value: the first of the layers that has a fitting integer, or else the built-in one. -/
def retryValue (layers : List (Entries String ConfigValue)) (key : String) (least : Int) : Int :=
  let fitting := layers.findSome? fun layer =>
    ((Entries.get? key layer).bind Data.int?).filter (least ≤ ·)
  fitting.getD ((Entries.get? key Settings.builtInRetry).getD 0)

/-- The retry policy: each value from the server, or else from the package. -/
def retryPolicy (packageRetry : Entries String ConfigValue) (server : Server) : RetryPolicy :=
  let layers := [server.retry, packageRetry]
  .ofInts (retryValue layers "attempts" 1) (retryValue layers "backoff_ms" 0)
    (retryValue layers "max_backoff_ms" 0)

end Server

namespace Settings

/-- The server of an entry; an entry that is no map makes none. -/
def serverOf? (slug : String) (entry : ConfigValue) : Except Fault (Option Server) :=
  match entry with
  | .map fields =>
    if Field.allText fields then
      match Server.ofFields slug fields with
      | .ok server => .ok (some server)
      | .error faults => .error (.ofConfiguration (.invalidServer slug faults))
    else .error (.crash .wrongType)
  | _ => .ok none

/-- All servers in ascending order of their slugs. -/
def allServers (settings : Settings) : Except Fault (List Server) :=
  (Text.sortedBy (·.1) settings.servers).filterMapM fun (slug, entry) => serverOf? slug entry

/-- The slugs among `wanted` that no server has, each once. -/
def missingSlugs (servers : List Server) (wanted : List String) : List String :=
  (wanted.filter fun slug => !(servers.any (·.slug == slug))).eraseDups

/-- The servers that are wanted, in ascending order of their slugs; all of them if none is named. -/
def selectServers (settings : Settings) (wanted : List String) : Except Fault (List Server) := do
  let servers ← settings.allServers
  if wanted.isEmpty then return servers
  match missingSlugs servers wanted with
  | [] => return servers.filter fun server => wanted.contains server.slug
  | missing => throw (.ofConfiguration (.unknownServers missing))

/-- The server of a slug. -/
def getServer (settings : Settings) (slug : String) : Except Fault Server := do
  match (← settings.selectServers [slug]).find? (·.slug == slug) with
  | some server => return server
  | none => throw (.ofConfiguration (.unknownServers [slug]))

/-- The retry policy for requests to a server. -/
def retryPolicy (settings : Settings) (server : Server) : RetryPolicy :=
  server.retryPolicy settings.retry

end Settings
end ToolBindings
