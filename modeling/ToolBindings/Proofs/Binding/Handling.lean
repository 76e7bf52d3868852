import ToolBindings.Binding.ToolClass
import ToolBindings.Proofs.Json.Reading
import ToolBindings.Proofs.Rpc.Calls
import ToolBindings.Proofs.Server.Resolution

/-!
# How a call of a tool is handled

A call sends nothing unless the server of the tool is configured, resolves to an endpoint and has
headers. Otherwise it sends at least one request and no more than the attempts of the server, each to
that endpoint, with those headers and with the name and the arguments of the tool (`Handled`). What
comes back is given as it is if it is a text, and else as JSON text that reads back as it.
-/

namespace ToolBindings

/-! ## Requests -/

namespace Rpc

variable {target : Target}

/-- A single header is among those that are sent. -/
theorem get?_sentHeaders (target : Target) {name value : String}
    (h : target.headers = [(name, value)]) :
    Entries.get? name (sentHeaders target) = some value := by
  rw [sentHeaders, h]
  show Entries.get? name (Entries.put name value baseHeaders) = some value
  rw [Entries.get?_put, if_pos rfl]

theorem distinctKeys_callParams (tool : String) {arguments : Json}
    (h : arguments.distinctKeys = true) : (callParams tool arguments).distinctKeys = true :=
  Data.distinctKeys_map.2 ⟨by simp, by simp [Data.distinctKeysFields, Data.distinctKeys, h]⟩

/-- The parameters are read back from a request. -/
theorem params_request {method : String} {params : Json} (hparams : params.distinctKeys = true)
    (target : Target) (id : String) :
    (Json.read? (request target method params id).body).bind (·.field? "params") = some params := by
  have hkeys : (Data.map [("jsonrpc", .text "2.0"), ("id", .text id), ("method", .text method),
      ("params", params)] : Json).distinctKeys = true :=
    Data.distinctKeys_map.2 ⟨by simp, by simp [Data.distinctKeysFields, Data.distinctKeys, hparams]⟩
  have hread := Json.read?_print Json.Style.isReadable_asciiLine hkeys [] nofun
  rw [String.ofList_nil, String.append_empty] at hread
  rw [request, hread]
  rfl

/-! ## Results -/

section

variable {method tool : String} {params arguments : Json} {c c' : Connection}

/-- A result is part of what was decoded, and has no key twice in a map. -/
theorem distinctKeys_of_judge {endpoint body : String} {status : Int}
    {result : Entries LooseText LooseJson} (h : judge method endpoint status body = .ok result) :
    (Data.map result).distinctKeys = true := by
  obtain ⟨fields, hbody, hresult⟩ := judge_eq_ok h
  exact Data.distinctKeys_of_field (Json.distinctKeys_of_readBy? hbody) hresult

theorem distinctKeys_of_attempt {result : Entries LooseText LooseJson}
    (h : attempt target method params c = (.ok result, c')) :
    (Data.map result).distinctKeys = true := by
  rw [attempt] at h
  split at h
  · cases h
  · split at h
    · cases h
    · split at h
      · cases h
      · split at h
        · rename_i hjudge
          cases h
          exact distinctKeys_of_judge hjudge
        · cases h

/-- What a call comes back with has no key twice in a map. -/
theorem distinctKeys_of_callTool {answer : LooseJson}
    (h : callTool target tool arguments c = (.ok answer, c')) : answer.distinctKeys = true := by
  rw [callTool] at h
  split at h
  · rename_i result after hask
    cases h
    obtain ⟨before, htry⟩ := RetryPolicy.exists_try_of_runFrom hask
    have hresult := distinctKeys_of_attempt htry
    rw [contentOf]
    split
    · exact hresult
    · exact hresult
    · rename_i hcontent
      exact Data.distinctKeys_of_field hresult hcontent
  · cases h

end

end Rpc

/-! ## Calls -/

namespace ToolClass

/-- A text gives an answer: it is the answer itself if that is a text, and else JSON text that is
decoded as the answer. In JSON text a half of a pair counts as its escape. -/
def Gives (text : List CodePoint) (answer : LooseJson) : Prop :=
  (∃ s, answer = .text s ∧ s.points = text) ∨
    (∀ s, answer ≠ .text s) ∧ Json.decode? (Json.escapeHalves text) = some answer

theorem gives_answerText {answer : LooseJson} (h : answer.distinctKeys = true) :
    Gives (answerText answer) answer := by
  have hread := Json.decode?_printLoose Json.Style.isReadable_compact h
  cases answer with
  | text s => exact Or.inl ⟨s, rfl, rfl⟩
  | _ => exact Or.inr ⟨by simp, hread⟩

/-- How a call with some arguments is handled, for a project with some servers. -/
structure Handled (c : ToolClass) (project : Project) (servers : List Server)
    (arguments : Entries String Json) (connection : Connection)
    (outcome : Except Fault (List CodePoint) × Connection) : Prop where
  /-- Without a server of the slug nothing is sent. -/
  unconfigured : (∀ server ∈ servers, server.slug ≠ c.server) →
    outcome = (.error (.ofConfiguration (.unknownServers [c.server])), connection)
  /-- Without an endpoint nothing is sent. -/
  unresolved : ∀ server ∈ servers, server.slug = c.server →
    (∀ endpoint, ¬server.Resolves project.environment endpoint) →
      outcome = (.error (.ofConfiguration (.missingEndpoint c.server)), connection)
  /-- Without headers nothing is sent. -/
  rejected : ∀ server ∈ servers, server.slug = c.server →
    ∀ cause, server.headers (some c.tool) = .error cause →
      ∃ cause', outcome = (.error (.ofConfiguration cause'), connection)
  /-- Otherwise, where the HTTP library accepts the headers, every request goes to the endpoint, with
  the headers, the name and the arguments. -/
  sent : ∀ server ∈ servers, server.slug = c.server →
    ∀ endpoint headers, server.Resolves project.environment endpoint →
      server.headers (some c.tool) = .ok headers →
      connection.refusal? (Entries.putAll Rpc.baseHeaders headers) = none →
      ∃ sent : List Request, outcome.2.requests = connection.requests ++ sent ∧
        1 ≤ sent.length ∧
        (sent.length : Int) ≤ server.chosen project.settings.retry "attempts" 1 1 ∧
        ∀ r ∈ sent, r.endpoint = endpoint ∧
          (∀ e ∈ headers, Entries.get? e.1 r.headers = some e.2) ∧
          (Json.read? r.body).bind (·.field? "params")
            = some (.map [("name", .text c.tool), ("arguments", .map arguments)])
  /-- Each retry value is chosen by itself. -/
  policy : ∀ server ∈ servers, server.slug = c.server →
    server.Chosen project.settings.retry (project.settings.retryPolicy server)
  /-- What comes back is a text as it is, or any other value as JSON text. -/
  answered : ∀ text after, outcome = (.ok text, after) → ∃ answer,
    project.invoke c.server c.tool (.map arguments) connection = (.ok answer, after) ∧
      Gives text answer

theorem handle_eq (c : ToolClass) (project : Project) (arguments : Entries String Json)
    (connection : Connection) :
    c.handle project (.map arguments) connection
      = ((project.invoke c.server c.tool (.map arguments) connection).1.map answerText,
        (project.invoke c.server c.tool (.map arguments) connection).2) := by
  rw [handle, argumentsOf]
  dsimp only
  rcases project.invoke c.server c.tool (.map arguments) connection with ⟨fault | answer, after⟩ <;>
    rfl

section

variable {project : Project} {servers : List Server} {server : Server} {c : ToolClass}
  {arguments : Entries String Json} {connection : Connection}

/-- A call of a configured server's tool goes to its target, if it has one. -/
theorem handle_of_mem (hservers : project.settings.allServers = .ok servers)
    (hserver : server ∈ servers) (hslug : server.slug = c.server)
    (arguments : Entries String Json) (connection : Connection) :
    c.handle project (.map arguments) connection
      = match project.target server (some c.tool) with
        | .error cause => (.error (.ofConfiguration cause), connection)
        | .ok target =>
          ((Rpc.callTool target c.tool (.map arguments) connection).1.map answerText,
            (Rpc.callTool target c.tool (.map arguments) connection).2) := by
  rw [handle_eq, ← hslug, Project.invoke, Settings.getServer_of_mem hservers hserver]
  dsimp only
  cases project.target server (some c.tool) <;> rfl

theorem distinctKeys_of_invoke {slug tool : String} {parameters : Json} {answer : LooseJson}
    {after : Connection}
    (h : project.invoke slug tool parameters connection = (.ok answer, after)) :
    answer.distinctKeys = true := by
  rw [Project.invoke] at h
  split at h
  · cases h
  · split at h
    · cases h
    · exact Rpc.distinctKeys_of_callTool h

/-- A target has the endpoint, the headers and the policy of its server. -/
theorem target_eq_ok {tool : Option String} {endpoint : String} {headers : Headers}
    (hendpoint : server.Resolves project.environment endpoint)
    (hheaders : server.headers tool = .ok headers) :
    project.target server tool
      = .ok ⟨endpoint, headers, server.timeout, project.settings.retryPolicy server⟩ := by
  rw [Project.target, Server.resolveEndpoint_eq_ok.2 hendpoint, hheaders]
  rfl

/-- A call with a target sends what the target says, at least once and at most as often as there are
attempts. -/
theorem requests_handle (hservers : project.settings.allServers = .ok servers)
    (hserver : server ∈ servers) (hslug : server.slug = c.server) {endpoint : String}
    {headers : Headers} (hendpoint : server.Resolves project.environment endpoint)
    (hheaders : server.headers (some c.tool) = .ok headers)
    (haccepted : connection.refusal? (Entries.putAll Rpc.baseHeaders headers) = none)
    (hkeys : (Data.map arguments).distinctKeys = true)
    (hscript : connection.script.isSome = true) :
    ∃ sent : List Request,
      (c.handle project (.map arguments) connection).2.requests = connection.requests ++ sent ∧
        1 ≤ sent.length ∧
        (sent.length : Int) ≤ server.chosen project.settings.retry "attempts" 1 1 ∧
        ∀ r ∈ sent, r.endpoint = endpoint ∧
          (∀ e ∈ headers, Entries.get? e.1 r.headers = some e.2) ∧
          (Json.read? r.body).bind (·.field? "params")
            = some (.map [("name", .text c.tool), ("arguments", .map arguments)]) := by
  rw [handle_of_mem hservers hserver hslug, target_eq_ok hendpoint hheaders]
  dsimp only
  let target : Target :=
    ⟨endpoint, headers, server.timeout, project.settings.retryPolicy server⟩
  have hparams := Rpc.distinctKeys_callParams c.tool hkeys
  have hsent : connection.refusal? (Rpc.sentHeaders target) = none := haccepted
  obtain ⟨n, hpos, hle, hrequests⟩ :=
    Rpc.requests_ask "tools/call" (Rpc.callParams c.tool (.map arguments)) hsent hscript
  have hattempts := (Server.chosen_retryPolicy project.settings.retry server).attempts
  refine ⟨_, by rw [Rpc.callTool_eq]; exact hrequests, ?_, ?_, ?_⟩
  · rwa [Rpc.length_requestsFrom]
  · rw [Rpc.length_requestsFrom, ← hattempts]
    exact Int.ofNat_le.2 hle
  · intro r hr
    obtain ⟨i, -, rfl⟩ := List.mem_map.1 hr
    refine ⟨rfl, fun e he => ?_, Rpc.params_request hparams target _⟩
    -- an auth strategy produces one header at most, so that none takes the place of another
    rcases Server.headers_ok hheaders with hnone | ⟨name, value, hone⟩
    · rw [hnone] at he
      cases he
    · rw [hone, List.mem_singleton] at he
      rw [he]
      exact Rpc.get?_sentHeaders target hone

/-- However a call is made, what it needs comes before anything is sent, and what comes back is given
without loss. -/
theorem handle_handled (c : ToolClass) (hservers : project.settings.allServers = .ok servers)
    (hkeys : (Data.map arguments).distinctKeys = true) (hscript : connection.script.isSome = true) :
    Handled c project servers arguments connection
      (c.handle project (.map arguments) connection) where
  unconfigured := by
    intro hnone
    have hfind : servers.find? (·.slug == c.server) = none := by simpa using hnone
    rw [handle_eq, Project.invoke, Settings.getServer_eq hservers, hfind]
    rfl
  unresolved := by
    intro server hserver hslug hnone
    rw [handle_of_mem hservers hserver hslug, Project.target,
      Server.resolveEndpoint_eq_error hnone, hslug]
    rfl
  rejected := by
    intro server hserver hslug cause hcause
    rw [handle_of_mem hservers hserver hslug, Project.target]
    cases server.resolveEndpoint project.environment with
    | error cause' => exact ⟨cause', rfl⟩
    | ok endpoint =>
      rw [hcause]
      exact ⟨cause, rfl⟩
  sent := by
    intro server hserver hslug endpoint headers hendpoint hheaders haccepted
    exact requests_handle hservers hserver hslug hendpoint hheaders haccepted hkeys hscript
  policy := fun server _ _ => Server.chosen_retryPolicy project.settings.retry server
  answered := by
    intro text after houtcome
    rw [handle_eq, Prod.mk.injEq] at houtcome
    rcases hinvoke : project.invoke c.server c.tool (.map arguments) connection with
      ⟨fault | answer, connection'⟩
    · rw [hinvoke] at houtcome
      cases houtcome.1
    · rw [hinvoke] at houtcome
      obtain ⟨htext, hafter⟩ := houtcome
      cases htext
      cases hafter
      refine ⟨answer, rfl, ?_⟩
      exact gives_answerText (distinctKeys_of_invoke hinvoke)

end

/-! ## A configured server -/

/-- A server as it is written: an endpoint, a token, and two attempts. -/
def crmEntry : ConfigValue :=
  .map [(.text "endpoint", .text "https://crm.example/mcp"),
    (.text "auth", .map [(.text "strategy", .text "bearer"), (.text "token", .text "token")]),
    (.text "retry", .map [(.text "attempts", .int 2)])]

/-- The server that is written so. -/
def crmServer : Server :=
  { slug := "crm"
    endpoint := some "https://crm.example/mcp"
    endpointVariable := none
    timeout := Server.defaultTimeout
    auth := some [("strategy", .text "bearer"), ("token", .text "token")]
    retry := [("attempts", .int 2)]
    manifest := none }

theorem resolves_crmServer (environment : Environment) :
    crmServer.Resolves environment "https://crm.example/mcp" := .own rfl (by decide)

/-- A project with this server alone. -/
def crmProject : Project :=
  { settings :=
      { servers := [("crm", crmEntry)], nodup := by simp, retry := [], generated := .default }
    environment := [] }

theorem allServers_crmProject : crmProject.settings.allServers = .ok [crmServer] := by
  have hsorted : Text.sortedBy (·.1) crmProject.settings.servers = crmProject.settings.servers :=
    rfl
  rw [Settings.allServers, hsorted]
  rfl

/-- An endpoint that cannot be reached at first and then answers. -/
def slowConnection : Connection :=
  .ofScript (some [("https://crm.example/mcp", [.breakdown .transport,
    .response ⟨200, .ok "\x7b\"result\": \x7b\"content\": [1]\x7d\x7d"⟩])])

theorem handle_handled_crm :
    crmProject.settings.allServers = .ok [crmServer] ∧ slowConnection.script.isSome = true ∧
      Handled (.plain "CrmSearchTool" "crm" "search" "") crmProject [crmServer] [("q", .text "x")]
        slowConnection
        (handle (.plain "CrmSearchTool" "crm" "search" "") crmProject (.map [("q", .text "x")])
          slowConnection) :=
  ⟨allServers_crmProject, rfl, handle_handled _ allServers_crmProject (by decide) rfl⟩

/-- The project with a second server whose timeout is no number. -/
def brokenProject : Project :=
  { settings :=
      { servers := [("crm", crmEntry), ("n8n", .map [(.text "timeout", .text "soon")])]
        nodup := by decide
        retry := []
        generated := .default }
    environment := [] }

/-- A second server that is not valid keeps every call from being sent, also one to a server that has
all it needs. -/
theorem handle_brokenProject :
    Settings.serverOf? "crm" crmEntry = .ok (some crmServer) ∧
      crmServer.Resolves brokenProject.environment "https://crm.example/mcp" ∧
      crmServer.headers (some "search") = .ok [("Authorization", "Bearer token")] ∧
      handle (.plain "CrmSearchTool" "crm" "search" "") brokenProject (.map []) slowConnection
        = (.error (.ofConfiguration (.invalidServer "n8n" [⟨["timeout"], "float_parsing"⟩])),
          slowConnection) := by
  refine ⟨rfl, resolves_crmServer _, rfl, ?_⟩
  have hsorted : Text.sortedBy (·.1) brokenProject.settings.servers
      = brokenProject.settings.servers := sortBy_of_pairwise (by decide)
  have hall : brokenProject.settings.allServers
      = .error (.ofConfiguration (.invalidServer "n8n" [⟨["timeout"], "float_parsing"⟩])) := by
    rw [Settings.allServers, hsorted]
    rfl
  have hget : brokenProject.settings.getServer "crm"
      = .error (.ofConfiguration (.invalidServer "n8n" [⟨["timeout"], "float_parsing"⟩])) := by
    rw [Settings.getServer, Settings.selectServers, hall]
    rfl
  rw [handle_eq, Project.invoke, plain, hget]
  rfl

end ToolClass
end ToolBindings
