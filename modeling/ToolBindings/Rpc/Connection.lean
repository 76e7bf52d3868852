import ToolBindings.Fault
import ToolBindings.Json.Printer
import ToolBindings.Server.Auth

/-!
# Connections

What the endpoints of a run answer, and what is sent to them. Each request to an endpoint takes the
next of its replies, and the last reply stands for all further ones. An endpoint without replies
cannot be reached. Without any script nothing is sent at all.
-/

namespace ToolBindings

/-- What can keep a request from being answered. -/
inductive Breakdown where
  | transport
  | redirects
  | contentEncoding
  | invalidValue

/-- An answer: its status, and the text of its body as the HTTP library gives it, unless it fails to
decode the body. -/
structure Response where
  status : Int
  text : Except Crash String

/-- What one request to an endpoint meets. -/
inductive Reply where
  | response (response : Response)
  | breakdown (what : Breakdown)

/-- A request as it is sent. -/
structure Request where
  endpoint : String
  headers : Headers
  id : String
  body : String
  timeout : Binary64

/-- What happens on a connection, in order. -/
inductive ConnectionEvent where
  | request (request : Request)
  | pause (milliseconds : Nat)

/-- A retry that was noted: after which of how many tries, and why. -/
structure RetryNote where
  attempt : Nat
  attempts : Nat
  message : String

/-- The replies to come, what has happened so far, and the headers that the HTTP library refuses to
send. -/
structure Connection where
  script : Option (Entries String (List Reply))
  sent : Nat
  events : List ConnectionEvent
  notes : List RetryNote
  refusal? : Headers → Option Crash

namespace RetryNote

/-- The line that notes a retry. -/
def line (n : RetryNote) : String :=
  "Transient MCP failure (attempt " ++ countText n.attempt ++ "/" ++ countText n.attempts ++
    "): " ++ n.message

end RetryNote

namespace Connection

/-- Headers whose names or values are not ASCII are refused. -/
def refuseNonAscii? (headers : Headers) : Option Crash :=
  if headers.all fun (name, value) =>
      name.toList.all (·.toNat < 128) && value.toList.all (·.toNat < 128) then none
  else some .notAscii

/-- A connection on which nothing has happened. -/
def ofScript (script : Option (Entries String (List Reply))) : Connection :=
  ⟨script, 0, [], [], refuseNonAscii?⟩

/-- The identifier of the request after `sent` others. -/
def requestId (sent : Nat) : String :=
  String.ofList ("00000000-0000-4000-8000-".toList ++ Text.hexGroup 12 sent)

/-- Notes an event. -/
def record (c : Connection) (event : ConnectionEvent) : Connection :=
  { c with events := c.events ++ [event] }

/-- The reply to the next request, and the replies after it. -/
def takeReply : List Reply → Reply × List Reply
  | [] => (.breakdown .transport, [])
  | [last] => (last, [last])
  | reply :: rest => (reply, rest)

/-- Sends a request. -/
def send (c : Connection) (request : Request) : Reply × Connection :=
  match c.script with
  | none => (.breakdown .transport, c)
  | some replies =>
    let (reply, rest) := takeReply ((Entries.get? request.endpoint replies).getD [])
    let replies := if rest.isEmpty then replies else Entries.put request.endpoint rest replies
    (reply, { (c.record (.request request)) with script := some replies, sent := c.sent + 1 })

/-- Pauses. -/
def pause (milliseconds : Nat) (c : Connection) : Connection := c.record (.pause milliseconds)

/-- Notes a retry. -/
def note (n : RetryNote) (c : Connection) : Connection := { c with notes := c.notes ++ [n] }

/-- The connection with new replies for some endpoints. -/
def withReplies (c : Connection) (replies : Entries String (List Reply)) : Connection :=
  { c with script := some (Entries.putAll (c.script.getD []) replies) }

end Connection
end ToolBindings
