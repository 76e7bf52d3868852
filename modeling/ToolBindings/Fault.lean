import ToolBindings.FileTree.Error
import ToolBindings.Name.Claimed

/-!
# Faults

What can go wrong. A `Failure` is a cause that a command reports and survives; each has one message.
A `Crash` is a cause that no command expects and that ends it. Only a failure to reach an endpoint
is transient, so only that is worth another attempt.
-/

namespace ToolBindings

/-- Why a manifest file is no manifest. -/
inductive ManifestFault where
  | unreadable (path : Path) (error : FileError)
  | notUtf8 (path : Path)
  | notJson (path : Path)
  | notObject (path : Path)
deriving DecidableEq

/-- Where in a configuration a value does not fit, and how. -/
structure FieldFault where
  location : List String
  kind : String
deriving DecidableEq

/-- What is wrong with the configuration, or with what it names. -/
inductive ConfigurationFault where
  | collision (cause : Name.Collision)
  | fileNotFound (path : String)
  | unreadable (path : Path)
  | notMapping (path : Path)
  | invalid (fields : List FieldFault)
  | invalidServer (server : String) (fields : List FieldFault)
  | unknownServers (servers : List String)
  | missingEndpoint (server : String)
  | missingManifest (server : String)
  | missingStrategy
  | unknownStrategy (tag : String)
  | notAStrategy (tag : String)
  | notABinding (className : String)
  | bindingNotFound (identifier : String)
  | noToolset (owner : String)
deriving DecidableEq

/-- What is wrong with a reply. -/
inductive ReplyFault where
  | notJson (endpoint : String) (status : Int) (body : String)
  | notObject (endpoint : String) (status : Int) (kind body : String)
  | noResult (method endpoint : String) (status : Int) (body : String)
  | toolsNotListed
  /-- Said by the client in other words. -/
  | other (message : String)
deriving DecidableEq

/-- A cause that commands report. -/
inductive Failure where
  | unreachable (endpoint : String)
  | reply (cause : ReplyFault)
  | rpc (method message : String)
  | configuration (cause : ConfigurationFault)
  | manifest (cause : ManifestFault)
  | manifestNotWritten (path : Path) (error : FileError)
deriving DecidableEq

/-- A cause that no command expects. -/
inductive Crash where
  /-- A value of a kind that the operation has no meaning for. -/
  | wrongType
  /-- A value of the right kind that is out of range. -/
  | wrongValue
  | tooLarge
  | notUtf8
  | notAscii
  /-- Octets of an answer that are none of its encoding. -/
  | notDecoded
  /-- A text holds halves of pairs, which no file can. -/
  | notWhole
  | redirects
  | contentEncoding
  | missingModule
  | missingAttribute
  | missingName
  | badSource
  | unbound (name : String)
  | markup
  | file (error : FileError)
deriving DecidableEq

/-- Anything that can go wrong. -/
inductive Fault where
  | failure (cause : Failure)
  | crash (cause : Crash)
deriving DecidableEq

/-! ## Messages -/

/-- Whole numbers in messages. -/
def countText (n : Nat) : String := String.ofList (Text.decimal n)

/-- What stands for the details of a decoding error. -/
def decodeDetail : String := "<decode error>"

/-- What stands for the details of a JSON error. -/
def jsonDetail : String := "<json error>"

/-- What stands for the details of an error in a configuration file. -/
def yamlDetail : String := "<yaml error>"

/-- What stands for a list of values that do not fit a model. -/
def validationDetail (model : String) (fields : List FieldFault) : String :=
  "<" ++ countText fields.length ++ " validation errors for " ++ model ++ ">"

namespace Name.Collision

/-- The message of a collision. -/
def message : Collision → String
  | .tool server name base =>
    "Tool class name collision detected for [" ++ server ++ "." ++ name ++ "] -> [" ++ base ++ "]"
  | .toolset server base =>
    "Toolset class name collision detected for [" ++ server ++ "] -> [" ++ base ++ "]"

end Name.Collision

namespace ManifestFault

/-- The message of a manifest fault. -/
def message : ManifestFault → String
  | .unreadable path error =>
    "Unable to read manifest: " ++ path.toText ++ " (" ++ error.message ++ ")"
  | .notUtf8 path => "Unable to read manifest: " ++ path.toText ++ " (" ++ decodeDetail ++ ")"
  | .notJson path => "Invalid JSON manifest: " ++ path.toText ++ " (" ++ jsonDetail ++ ")"
  | .notObject path => "Invalid JSON manifest: " ++ path.toText ++ " (expected object)"

end ManifestFault

namespace ConfigurationFault

/-- The message of a configuration fault. -/
def message : ConfigurationFault → String
  | .collision cause => cause.message
  | .fileNotFound path => "Config file not found: " ++ path
  | .unreadable path => "Failed to load config from " ++ path.toText ++ ": " ++ yamlDetail
  | .notMapping path => "Config root must be a mapping: " ++ path.toText
  | .invalid fields => "Invalid configuration: " ++ validationDetail "McpForgeConfig" fields
  | .invalidServer server fields =>
    "Invalid configuration for MCP server [" ++ server ++ "]: " ++
      validationDetail "ServerConfig" fields
  | .unknownServers servers => "Unknown MCP servers: " ++ Text.joinWith ", " servers
  | .missingEndpoint server => "Missing endpoint for MCP server [" ++ server ++ "]."
  | .missingManifest server => "Missing manifest path for MCP server [" ++ server ++ "]."
  | .missingStrategy => "Missing MCP auth strategy in `auth.strategy`."
  | .unknownStrategy tag => "Unknown MCP auth strategy: " ++ tag
  | .notAStrategy tag => "MCP auth strategy must implement AuthStrategy: " ++ tag
  | .notABinding className => "Class [" ++ className ++ "] is not a generated MCP tool binding."
  | .bindingNotFound identifier =>
    "Generated tool binding [" ++ identifier ++ "] was not found. Run `mcpforge generate`."
  | .noToolset owner => owner ++ " has no `mcp_toolset`; assign a GeneratedToolset first."

/-- The values that do not fit, where that is the cause. -/
def fields : ConfigurationFault → List FieldFault
  | .invalid fields | .invalidServer _ fields => fields
  | _ => []

end ConfigurationFault

/-- The longest part of a body that a message shows. -/
def previewLength : Nat := 200

/-- The front of a body, for a message. -/
def preview (body : String) : String :=
  let characters := body.toList
  if characters.length ≤ previewLength then body
  else String.ofList (characters.take previewLength) ++ "... (truncated)"

namespace ReplyFault

/-- A status in a message. -/
def statusText (status : Int) : String := "(HTTP " ++ String.ofList (Text.decimalInt status) ++ ")"

/-- The message of a reply fault. -/
def message : ReplyFault → String
  | .notJson endpoint status body =>
    "Invalid JSON-RPC response from MCP endpoint: " ++ endpoint ++ " " ++ statusText status ++
      ": invalid JSON. Body: " ++ preview body
  | .notObject endpoint status kind body =>
    "Invalid JSON-RPC response from MCP endpoint: " ++ endpoint ++ " " ++ statusText status ++
      ": expected object, got " ++ kind ++ ". Body: " ++ preview body
  | .noResult method endpoint status body =>
    "Missing or invalid result in JSON-RPC response for [" ++ method ++ "] from " ++ endpoint ++
      " " ++ statusText status ++ ". Body: " ++ preview body
  | .toolsNotListed => "Invalid MCP response for tools/list."
  | .other message => message

end ReplyFault

namespace Failure

/-- The message of a failure. -/
def message : Failure → String
  | .unreachable endpoint => "Failed to call MCP endpoint: " ++ endpoint
  | .reply cause => cause.message
  | .rpc method message => "MCP error for [" ++ method ++ "]: " ++ message
  | .configuration cause => cause.message
  | .manifest cause => cause.message
  | .manifestNotWritten path error =>
    "Unable to write manifest: " ++ path.toText ++ " (" ++ error.message ++ ")"

/-- Another attempt may succeed. -/
def isTransient : Failure → Bool
  | .unreachable _ => true
  | _ => false

end Failure

namespace Fault

/-- A configuration fault as a fault. -/
def ofConfiguration (cause : ConfigurationFault) : Fault := .failure (.configuration cause)

/-- Another attempt may succeed. -/
def isTransient : Fault → Bool
  | .failure cause => cause.isTransient
  | .crash _ => false

end Fault
end ToolBindings
