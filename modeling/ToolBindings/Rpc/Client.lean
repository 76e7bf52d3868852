import ToolBindings.Json.Lexer
import ToolBindings.Literal.Printer
import ToolBindings.Rpc.Connection
import ToolBindings.Server.Retry

/-!
# Remote calls

The two methods of a tool server, asked over a connection. A call is one request per try; what comes
back is judged by its body alone, never by its status, and only a failure to get any answer is tried
again.
-/

namespace ToolBindings

/-- Where and how calls are made. -/
structure Target where
  endpoint : String
  headers : Headers
  timeout : Binary64
  retry : RetryPolicy

namespace Rpc

/-- The headers that every request has unless others are given under the same names. -/
def baseHeaders : Headers :=
  [("Content-Type", "application/json"), ("Accept", "application/json")]

/-- The request for a method. -/
def request (target : Target) (method : String) (params : Json) (id : String) : Request :=
  let message : Json := .map [
    ("jsonrpc", .text "2.0"), ("id", .text id), ("method", .text method), ("params", params)]
  { endpoint := target.endpoint
    headers := Entries.putAll baseHeaders target.headers
    id
    body := Json.print .asciiLine message
    timeout := target.timeout }

/-- The word for the kind of a value that is no map. -/
def kindWord {κ τ : Type} : Data κ τ → String
  | .null => "null"
  | .bool _ => "boolean"
  | .int _ | .float _ => "number"
  | .text _ => "string"
  | .list _ => "array"
  | .map _ => "object"

/-- The message of an error member. -/
def errorMessage (error : LooseJson) : String :=
  match error.field? (.ofString "message") with
  | none | some .null => "Unknown MCP error"
  | some message => Literal.display message.shown

/-- The result in a body: the body has to be a JSON object without an error and with a result
object. -/
def judge (method endpoint : String) (status : Int) (body : String) :
    Except Failure (Entries LooseText LooseJson) :=
  match Json.decode? body with
  | none => .error (.reply (.notJson endpoint status body))
  | some (.map fields) =>
    match Entries.get? (.ofString "error") fields with
    | none | some .null =>
      match Entries.get? (.ofString "result") fields with
      | some (.map result) => .ok result
      | _ => .error (.reply (.noResult method endpoint status body))
    | some error => .error (.rpc method (errorMessage error))
  | some value => .error (.reply (.notObject endpoint status (kindWord value) body))

/-- The fault of a request without an answer. -/
def breakdownFault (endpoint : String) : Breakdown → Fault
  | .transport => .failure (.unreachable endpoint)
  | .redirects => .crash .redirects
  | .contentEncoding => .crash .contentEncoding
  | .invalidValue => .crash .wrongValue

/-- One try of a method. -/
def attempt (target : Target) (method : String) (params : Json) (c : Connection) :
    Except Fault (Entries LooseText LooseJson) × Connection :=
  let message := request target method params (Connection.requestId c.sent)
  match c.refusal? message.headers with
  | some crash => (.error (.crash crash), c)
  | none =>
    match c.send message with
    | (.breakdown what, c) => (.error (breakdownFault target.endpoint what), c)
    | (.response response, c) =>
      match response.text with
      | .error crash => (.error (.crash crash), c)
      | .ok body =>
        match judge method target.endpoint response.status body with
        | .ok result => (.ok result, c)
        | .error cause => (.error (.failure cause), c)

/-- How retries are noted and pauses made on a connection. -/
def retryActions (policy : RetryPolicy) : RetryPolicy.Actions Connection Fault where
  isTransient := Fault.isTransient
  warn attempt fault c :=
    match fault with
    | .failure cause => c.note ⟨attempt, policy.attempts, cause.message⟩
    | .crash _ => c
  pause := Connection.pause

/-- Asks a method, with retries. -/
def ask (target : Target) (method : String) (params : Json) (c : Connection) :
    Except Fault (Entries LooseText LooseJson) × Connection :=
  target.retry.run (retryActions target.retry) (attempt target method params) c

/-- The tools in a result: the entries of its list that are objects. -/
def toolsOf {τ : Type} [DecidableEq τ] [IsText τ] (result : Entries τ (Data τ τ)) :
    Except Fault (List (Entries τ (Data τ τ))) :=
  match Entries.get? (IsText.ofString "tools") result with
  | none => .ok []
  | some (.list tools) => .ok (tools.filterMap Data.map?)
  | some _ => .error (.failure (.reply .toolsNotListed))

/-- The tools of a server. -/
def listTools (target : Target) (c : Connection) :
    Except Fault (List (Entries LooseText LooseJson)) × Connection :=
  match ask target "tools/list" (.map []) c with
  | (.ok result, c) => (toolsOf result, c)
  | (.error fault, c) => (.error fault, c)

/-- What a result says: its content, or all of it if it has none. -/
def contentOf (result : Entries LooseText LooseJson) : LooseJson :=
  match Entries.get? (.ofString "content") result with
  | none | some .null => .map result
  | some content => content

/-- Calls a tool. -/
def callTool (target : Target) (tool : String) (arguments : Json) (c : Connection) :
    Except Fault LooseJson × Connection :=
  match ask target "tools/call" (.map [("name", .text tool), ("arguments", arguments)]) c with
  | (.ok result, c) => (.ok (contentOf result), c)
  | (.error fault, c) => (.error fault, c)

end Rpc
end ToolBindings
