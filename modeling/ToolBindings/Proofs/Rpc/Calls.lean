import ToolBindings.Proofs.Rpc.Connection
import ToolBindings.Proofs.Server.Retry
import ToolBindings.Rpc.Client

/-!
# What comes of a call

A method that is asked with retries is sent once for each transport failure at the front of the
replies to come, and once more, unless the tries run out (`ask_eq`). The first reply that is no
transport failure decides, and a response decides by its body alone (`ruling`). This needs an HTTP
library that accepts the headers and reads the deciding body as text (`answered_iff_isHeard`).
-/

namespace ToolBindings

/-! ## Kinds of failures -/

/-- What a failure is a failure of. -/
inductive Failure.Kind where
  | transport
  | invalidResponse
  | rpc
  | configuration
  | manifest
  | write
deriving DecidableEq

/-- The kind of a failure. -/
def Failure.kind : Failure → Kind
  | .unreachable _ => .transport
  | .reply _ => .invalidResponse
  | .rpc .. => .rpc
  | .configuration _ => .configuration
  | .manifest _ => .manifest
  | .manifestNotWritten .. => .write

/-- The kind of a fault that is a failure. -/
def Fault.kind? : Fault → Option Failure.Kind
  | .failure cause => some cause.kind
  | .crash _ => none

namespace Rpc

/-! ## Judging -/

/-- What the body of an answer comes to, for a method whose value is made of the result in it. There
is no result unless the body is a JSON object, and an error in it that is not null comes before all
else. -/
def ruling {α : Type} (value : Entries LooseText LooseJson → Option α) (body : String) :
    Except Failure.Kind α :=
  match Json.decode? body with
  | some (.map fields) =>
    match Entries.get? (.ofString "error") fields with
    | none | some .null =>
      match ((Entries.get? (.ofString "result") fields).bind Data.map?).bind value with
      | some a => .ok a
      | none => .error .invalidResponse
    | some _ => .error .rpc
  | _ => .error .invalidResponse

/-- The tools that a result lists: none if it has no list, and else the objects of the list. -/
def listedTools (result : Entries LooseText LooseJson) : Option (List (Entries LooseText LooseJson)) :=
  match Entries.get? (.ofString "tools") result with
  | none => some []
  | some tools => tools.list?.map (·.filterMap Data.map?)

/-- The content of a result, unless there is none or it is null, and else all of it. -/
def calledContent (result : Entries LooseText LooseJson) : LooseJson :=
  ((Entries.get? (.ofString "content") result).filter (!·.isNull)).getD (.map result)

section

variable {α : Type} {value : Entries LooseText LooseJson → Option α}
  {finish : Entries LooseText LooseJson → Except Fault α} {fields result : Entries LooseText LooseJson}
  {body : String}

/-- What is made of a result is the value of it, or an invalid response. -/
def Finishes (value : Entries LooseText LooseJson → Option α)
    (finish : Entries LooseText LooseJson → Except Fault α) : Prop :=
  ∀ result, (finish result).mapError Fault.kind?
    = match value result with
      | some a => .ok a
      | none => .error (some .invalidResponse)

theorem finishes_toolsOf : Finishes listedTools toolsOf := by
  intro result
  rw [toolsOf, listedTools]
  -- no list of tools is an empty one, anything else in its place is an invalid response
  cases Entries.get? (.ofString "tools") result with
  | none => rfl
  | some tools => cases tools <;> rfl

theorem finishes_contentOf : Finishes (fun result => some (calledContent result))
    (fun result => .ok (contentOf result)) := by
  intro result
  dsimp only
  rw [contentOf, calledContent]
  cases Entries.get? (.ofString "content") result with
  | none => rfl
  | some content => cases content <;> rfl

/-- There is no error among the members of a body, or one that is null. -/
def NoError (fields : Entries LooseText LooseJson) : Prop :=
  Entries.get? (.ofString "error") fields = none ∨
    Entries.get? (.ofString "error") fields = some .null

/-- The result in a body: the object there, if there is one. -/
def resultIn (fields : Entries LooseText LooseJson) : Option (Entries LooseText LooseJson) :=
  (Entries.get? (.ofString "result") fields).bind Data.map?

/-- Without an error the result decides what a body is judged to be. -/
theorem judge_of_noError (hbody : Json.decode? body = some (.map fields))
    (herror : NoError fields)
    (method endpoint : String) (status : Int) :
    judge method endpoint status body
      = (resultIn fields).elim (.error (.reply (.noResult method endpoint status body))) .ok := by
  rw [judge, hbody, resultIn]
  dsimp only
  -- no error and an error that is null are one branch with two patterns
  rcases herror with herror | herror
  all_goals
    rw [herror]
    cases Entries.get? (.ofString "result") fields with
    | none => rfl
    | some found => cases found <;> rfl

theorem ruling_of_noError (hbody : Json.decode? body = some (.map fields))
    (herror : NoError fields)
    (value : Entries LooseText LooseJson → Option α) :
    ruling value body
      = ((resultIn fields).bind value).elim (.error .invalidResponse) .ok := by
  rw [ruling, hbody]
  dsimp only
  rcases herror with herror | herror
  all_goals
    rw [herror, resultIn]
    cases ((Entries.get? (.ofString "result") fields).bind Data.map?).bind value <;> rfl

/-- What a body is judged to be was read in it. -/
theorem judge_eq_ok {method endpoint : String} {status : Int}
    (h : judge method endpoint status body = .ok result) :
    ∃ fields, Json.decode? body = some (.map fields) ∧
      Entries.get? (.ofString "result") fields = some (.map result) := by
  rw [judge] at h
  split at h
  · cases h
  · rename_i fields hbody
    refine ⟨fields, hbody, ?_⟩
    split at h
    · split at h
      · rename_i hresult
        cases h
        exact hresult
      · cases h
    · split at h
      · rename_i hresult
        cases h
        exact hresult
      · cases h
    · cases h
  · cases h

/-- A judgement comes to the ruling on the body, if there is no error in that. -/
private theorem kind_judge_of_noError (hfinish : Finishes value finish)
    (hbody : Json.decode? body = some (.map fields))
    (herror : NoError fields)
    (method endpoint : String) (status : Int) :
    (((judge method endpoint status body).mapError Fault.failure).bind finish).mapError Fault.kind?
      = (ruling value body).mapError some := by
  rw [judge_of_noError hbody herror, ruling_of_noError hbody herror]
  cases resultIn fields with
  | none => rfl
  | some result =>
    have hresult := hfinish result
    rw [Option.bind_some]
    cases hvalue : value result with
    | none =>
      rw [hvalue] at hresult
      exact hresult
    | some a =>
      rw [hvalue] at hresult
      exact hresult

/-- A judgement comes to the ruling on the body, whatever the method, the endpoint and the status. -/
theorem kind_judge (hfinish : Finishes value finish) (method endpoint : String) (status : Int)
    (body : String) :
    (((judge method endpoint status body).mapError Fault.failure).bind finish).mapError Fault.kind?
      = (ruling value body).mapError some := by
  cases hbody : Json.decode? body with
  | none =>
    rw [ruling, judge, hbody]
    rfl
  | some decoded =>
    cases decoded with
    | map fields =>
      cases herror : Entries.get? (.ofString "error") fields with
      | none => exact kind_judge_of_noError hfinish hbody (Or.inl herror) method endpoint status
      | some error =>
        cases error with
        | null => exact kind_judge_of_noError hfinish hbody (Or.inr herror) method endpoint status
        | _ =>
          -- any other error comes before the result
          rw [ruling, judge, hbody]
          dsimp only
          rw [herror]
          rfl
    | _ =>
      rw [ruling, judge, hbody]
      rfl

end

/-! ## One try -/

section

variable {target : Target} {method : String} {params : Json} {c c' : Connection}

/-- The headers of every request to a target. -/
def sentHeaders (target : Target) : Headers := Entries.putAll baseHeaders target.headers

/-- The requests of `n` tries, after `sent` requests. -/
def requestsFrom (target : Target) (method : String) (params : Json) (sent n : Nat) :
    List Request :=
  (List.range n).map fun i => request target method params (Connection.requestId (sent + i))

/-- What a reply comes to. -/
def outcomeOf (target : Target) (method : String) :
    Reply → Except Fault (Entries LooseText LooseJson)
  | .response r =>
    match r.text with
    | .ok body => (judge method target.endpoint r.status body).mapError .failure
    | .error crash => .error (.crash crash)
  | .breakdown what => .error (breakdownFault target.endpoint what)

/-- A try is a request, and comes to what the next reply comes to. -/
theorem attempt_eq (method : String) (params : Json)
    (haccepted : c.refusal? (sentHeaders target) = none) (hscript : c.script.isSome = true) :
    (attempt target method params c).1 = outcomeOf target method (c.upcoming target.endpoint 0) ∧
      c.Asked target.endpoint (requestsFrom target method params c.sent 1)
        (attempt target method params c).2 := by
  obtain ⟨hreply, hasked⟩ :=
    Connection.asked_send hscript (request target method params (Connection.requestId c.sent))
  have hheaders : c.refusal? (request target method params (Connection.requestId c.sent)).headers
      = none := haccepted
  rw [attempt, hheaders]
  dsimp only
  -- the request goes to the endpoint of the target
  have hreply' : _ = c.upcoming target.endpoint 0 := hreply
  rcases hsend : c.send (request target method params (Connection.requestId c.sent)) with
    ⟨reply, after⟩
  rw [hsend] at hreply' hasked
  rw [← hreply']
  cases reply with
  | breakdown what => exact ⟨rfl, hasked⟩
  | response response =>
    dsimp only [outcomeOf]
    cases response.text with
    | error crash => exact ⟨rfl, hasked⟩
    | ok body =>
      dsimp only
      cases judge method target.endpoint response.status body <;> exact ⟨rfl, hasked⟩

theorem isTransient_judge {endpoint body : String} {status : Int} {cause : Failure}
    (h : judge method endpoint status body = .error cause) : cause.isTransient = false := by
  rw [judge] at h
  split at h
  · cases h
    rfl
  · split at h
    · split at h
      · cases h
      · cases h
        rfl
    · split at h
      · cases h
      · cases h
        rfl
    · cases h
      rfl
  · cases h
    rfl

/-- Only a transport failure is worth another try. -/
theorem isTransient_outcomeOf {reply : Reply} {fault : Fault}
    (h : outcomeOf target method reply = .error fault) :
    fault.isTransient = reply.isUnreachable := by
  cases reply with
  | breakdown what =>
    cases what <;>
    · cases h
      rfl
  | response response =>
    rw [outcomeOf] at h
    cases htext : response.text with
    | error crash =>
      rw [htext] at h
      cases h
      rfl
    | ok body =>
      rw [htext] at h
      dsimp only at h
      cases hjudge : judge method target.endpoint response.status body with
      | ok result =>
        rw [hjudge] at h
        cases h
      | error cause =>
        rw [hjudge] at h
        cases h
        exact isTransient_judge hjudge

/-! ## All tries -/

/-- How many of some replies are taken: all up to the first that is no transport failure. -/
def tries (replies : List Reply) : Nat :=
  min replies.length (1 + (replies.takeWhile Reply.isUnreachable).length)

/-- The reply that decides. -/
def deciding? (replies : List Reply) : Option Reply := replies.find? (!·.isUnreachable)

/-- What the replies to all tries come to. -/
def outcomeOfAll (target : Target) (method : String) (replies : List Reply) :
    Except Fault (Entries LooseText LooseJson) :=
  match deciding? replies with
  | some reply => outcomeOf target method reply
  | none => .error (.failure (.unreachable target.endpoint))

theorem tries_cons (reply : Reply) (replies : List Reply) :
    tries (reply :: replies) = 1 + if reply.isUnreachable then tries replies else 0 := by
  rw [tries, tries, List.takeWhile_cons]
  split
  · simp only [List.length_cons]
    omega
  · simp only [List.length_cons, List.length_nil]
    omega

theorem outcomeOfAll_cons (reply : Reply) (replies : List Reply) :
    outcomeOfAll target method (reply :: replies)
      = if reply.isUnreachable then outcomeOfAll target method replies
        else outcomeOf target method reply := by
  rw [outcomeOfAll, outcomeOfAll, deciding?, deciding?, List.find?_cons]
  cases reply.isUnreachable <;> rfl

/-- Without an answer there is nothing but a transport failure. -/
theorem outcomeOf_of_isUnreachable {reply : Reply} (h : reply.isUnreachable = true) :
    outcomeOf target method reply = .error (.failure (.unreachable target.endpoint)) := by
  unfold Reply.isUnreachable at h
  split at h
  · rfl
  · cases h

theorem requestsFrom_add (target : Target) (method : String) (params : Json) (sent m n : Nat) :
    requestsFrom target method params sent (m + n)
      = requestsFrom target method params sent m
        ++ requestsFrom target method params (sent + m) n := by
  rw [requestsFrom, List.range_add, List.map_append, List.map_map]
  simp [requestsFrom, Function.comp_def, Nat.add_assoc]

@[simp] theorem length_requestsFrom (target : Target) (method : String) (params : Json)
    (sent n : Nat) : (requestsFrom target method params sent n).length = n := by
  simp [requestsFrom]

/-- Between tries there is a note and perhaps a pause. -/
theorem asked_paused (policy : RetryPolicy) (target : Target) (number pause : Nat)
    (hscript : c.script.isSome = true) :
    c.Asked target.endpoint [] (if 0 < pause
      then (retryActions policy).pause pause
        ((retryActions policy).warn number (.failure (.unreachable target.endpoint)) c)
      else (retryActions policy).warn number (.failure (.unreachable target.endpoint)) c) := by
  have hnoted := Connection.asked_note target.endpoint
    ⟨number, policy.attempts, (Failure.unreachable target.endpoint).message⟩ hscript
  split
  · exact hnoted.trans (Connection.asked_pause target.endpoint pause hnoted.scripted)
  · exact hnoted

/-- Tries go on through transport failures: with `more` tries left after this one, the replies to all
of them decide. -/
theorem runFrom_eq (method : String) (params : Json)
    (haccepted : c.refusal? (sentHeaders target) = none) (policy : RetryPolicy)
    (more number pause : Nat) (hscript : c.script.isSome = true) :
    (policy.runFrom (retryActions policy) (attempt target method params) more number pause c).1
        = outcomeOfAll target method (c.outcomes target.endpoint (more + 1)) ∧
      c.Asked target.endpoint
        (requestsFrom target method params c.sent (tries (c.outcomes target.endpoint (more + 1))))
        (policy.runFrom (retryActions policy) (attempt target method params) more number pause
          c).2 := by
  -- by induction on the tries that are left: the replies to come are the next one and, after a request
  -- that it answers, those that are then to come
  induction more generalizing number pause c with
  | zero =>
    obtain ⟨hresult, hasked⟩ := attempt_eq method params haccepted hscript
    rw [hasked.outcomes (length_requestsFrom ..), RetryPolicy.runFrom_last, outcomeOfAll_cons,
      tries_cons, hresult]
    refine ⟨?_, ?_⟩
    · -- a transport failure in the last try is what all tries come to
      split
      · rename_i hreply
        exact outcomeOf_of_isUnreachable hreply
      · rfl
    · simpa [Connection.outcomes, tries] using hasked
  | succ more ih =>
    obtain ⟨hresult, hasked⟩ := attempt_eq method params haccepted hscript
    by_cases hreply : (c.upcoming target.endpoint 0).isUnreachable = true
    · -- nothing came, and the tries go on after the note and the pause
      rw [outcomeOf_of_isUnreachable hreply] at hresult
      have htry : attempt target method params c
          = (.error (.failure (.unreachable target.endpoint)),
            (attempt target method params c).2) := Prod.ext hresult rfl
      have hpaused := asked_paused policy target number pause hasked.scripted
      have hnext := hasked.trans hpaused
      obtain ⟨hrest, hrests⟩ := ih (hnext.refusal ▸ haccepted) (number + 1)
        (policy.nextPause pause) hpaused.scripted
      rw [hnext.outcomes (by simp), outcomeOfAll_cons, tries_cons, if_pos hreply, if_pos hreply,
        RetryPolicy.runFrom_again more number pause htry rfl]
      refine ⟨hrest, ?_⟩
      have hall := hnext.trans hrests
      rw [hnext.sent, List.append_nil, length_requestsFrom] at hall
      rwa [requestsFrom_add]
    · -- something came, which decides
      have hsettled : ∀ fault, (attempt target method params c).1 = .error fault →
          (retryActions policy).isTransient fault = false := by
        intro fault hfault
        rw [hresult] at hfault
        rw [Bool.not_eq_true] at hreply
        exact (isTransient_outcomeOf hfault).trans hreply
      rw [hasked.outcomes (length_requestsFrom ..), outcomeOfAll_cons, tries_cons,
        RetryPolicy.runFrom_settled (more + 1) number pause hsettled, if_neg hreply,
        if_neg hreply]
      exact ⟨hresult, hasked⟩

/-- A method is sent until an answer comes or the tries run out, and comes to what the replies to all
tries come to. -/
theorem ask_eq (method : String) (params : Json)
    (haccepted : c.refusal? (sentHeaders target) = none) (hscript : c.script.isSome = true) :
    (ask target method params c).1
        = outcomeOfAll target method (c.outcomes target.endpoint target.retry.attempts) ∧
      c.Asked target.endpoint
        (requestsFrom target method params c.sent
          (tries (c.outcomes target.endpoint target.retry.attempts)))
        (ask target method params c).2 := by
  have hrun := runFrom_eq method params haccepted target.retry
    (target.retry.attempts - 1) 1 target.retry.backoff hscript
  rwa [Nat.sub_add_cancel target.retry.attempts_pos] at hrun

/-- There is at least one request for a method, and no more than there are tries. -/
theorem requests_ask (method : String) (params : Json)
    (haccepted : c.refusal? (sentHeaders target) = none) (hscript : c.script.isSome = true) :
    ∃ n, 1 ≤ n ∧ n ≤ target.retry.attempts ∧
      (ask target method params c).2.requests
        = c.requests ++ requestsFrom target method params c.sent n := by
  -- as many as are taken of the replies, which are as many as there are attempts
  refine ⟨_, ?_, ?_, (ask_eq method params haccepted hscript).2.recorded⟩
  · have hpos := target.retry.attempts_pos
    rw [tries, Connection.length_outcomes]
    omega
  · rw [tries, Connection.length_outcomes]
    omega

/-- Nothing is sent with headers that are refused. -/
theorem ask_of_refused {crash : Crash} (hrefused : c.refusal? (sentHeaders target) = some crash)
    (method : String) (params : Json) :
    ask target method params c = (.error (.crash crash), c) := by
  have htry : attempt target method params c = (.error (.crash crash), c) := by
    have hheaders : c.refusal? (request target method params (Connection.requestId c.sent)).headers
        = some crash := hrefused
    rw [attempt, hheaders]
  -- and that is nothing to try again after
  have hsettled : ∀ fault, (attempt target method params c).1 = .error fault →
      (retryActions target.retry).isTransient fault = false := by
    intro fault hfault
    rw [htry] at hfault
    cases hfault
    rfl
  rw [ask, RetryPolicy.run, RetryPolicy.runFrom_settled _ _ _ hsettled, htry]

end

/-! ## Operations -/

section

variable {α : Type} {target : Target} {method : String} {params : Json}
  {value : Entries LooseText LooseJson → Option α}
  {finish : Entries LooseText LooseJson → Except Fault α} {c : Connection}

theorem listTools_eq (target : Target) (c : Connection) :
    listTools target c = ((ask target "tools/list" (.map []) c).1.bind toolsOf,
      (ask target "tools/list" (.map []) c).2) := by
  rw [listTools]
  rcases ask target "tools/list" (.map []) c with ⟨fault | result, c'⟩ <;> rfl

/-- The parameters of a call. -/
def callParams (tool : String) (arguments : Json) : Json :=
  .map [("name", .text tool), ("arguments", arguments)]

theorem callTool_eq (target : Target) (tool : String) (arguments : Json) (c : Connection) :
    callTool target tool arguments c
      = ((ask target "tools/call" (callParams tool arguments) c).1.bind
          fun result => .ok (contentOf result),
        (ask target "tools/call" (callParams tool arguments) c).2) := by
  rw [callTool, callParams]
  rcases ask target "tools/call" (.map [("name", .text tool), ("arguments", arguments)]) c with
    ⟨fault | result, c'⟩ <;> rfl

/-- What the text of an answer comes to. A body that cannot be read as text is no JSON. -/
def rulingOn (value : Entries LooseText LooseJson → Option α) :
    Except Crash String → Except Failure.Kind α
  | .ok body => ruling value body
  | .error _ => .error .invalidResponse

/-- What an operation comes to, by the replies to as many requests as there are tries. -/
structure Answered (target : Target) (method : String) (params : Json)
    (value : Entries LooseText LooseJson → Option α) (c : Connection)
    (outcome : Except Fault α × Connection) : Prop where
  /-- There is one request, and one more for each transport failure before the first other reply,
  as long as tries are left. The requests differ in nothing but their identifiers. -/
  sent : outcome.2.requests = c.requests
    ++ (List.range (min target.retry.attempts
        (1 + ((c.outcomes target.endpoint target.retry.attempts).takeWhile
          Reply.isUnreachable).length))).map
      fun i => request target method params (Connection.requestId (c.sent + i))
  /-- The operation fails to reach the endpoint exactly if no try does. -/
  unreachable : outcome.1.mapError Fault.kind? = .error (some .transport) ↔
    ∀ reply ∈ c.outcomes target.endpoint target.retry.attempts, reply.isUnreachable = true
  /-- The first answer decides, by its body alone. -/
  decided : ∀ response,
    deciding? (c.outcomes target.endpoint target.retry.attempts) = some (.response response) →
      outcome.1.mapError Fault.kind? = (rulingOn value response.text).mapError some
  /-- What is neither an answer nor a transport failure is passed on. -/
  broken : ∀ what,
    deciding? (c.outcomes target.endpoint target.retry.attempts) = some (.breakdown what) →
      outcome.1 = .error (breakdownFault target.endpoint what) ∧ outcome.1.mapError Fault.kind?
        = .error none

theorem ruling_ne_transport (value : Entries LooseText LooseJson → Option α) (body : String) :
    ruling value body ≠ .error .transport := by
  unfold ruling
  split
  · split
    · split <;> simp
    · split <;> simp
    · simp
  · simp

section

variable {replies : List Reply}

theorem deciding?_eq_none :
    deciding? replies = none ↔ ∀ reply ∈ replies, reply.isUnreachable = true := by
  rw [deciding?, List.find?_eq_none]
  simp

/-- The reply that decides is read as text, if it is an answer. -/
def IsRead (replies : List Reply) : Prop :=
  ∀ response, deciding? replies = some (.response response) → response.text.isOk = true

/-- An answer that decides does so by its body. -/
theorem kind_of_response (hfinish : Finishes value finish) {response : Response} {body : String}
    (h : deciding? replies = some (.response response)) (htext : response.text = .ok body) :
    ((outcomeOfAll target method replies).bind finish).mapError Fault.kind?
      = (ruling value body).mapError some := by
  rw [outcomeOfAll, h]
  dsimp only [outcomeOf]
  rw [htext]
  exact kind_judge hfinish method target.endpoint response.status body

/-- An answer that decides and cannot be read is a crash. -/
theorem crash_of_unread {response : Response} {crash : Crash}
    (h : deciding? replies = some (.response response)) (htext : response.text = .error crash) :
    (outcomeOfAll target method replies).bind finish = .error (.crash crash) := by
  rw [outcomeOfAll, h]
  dsimp only [outcomeOf]
  rw [htext]
  rfl

/-- Any other reply that decides is a crash. -/
theorem crash_of_breakdown {what : Breakdown} (h : deciding? replies = some (.breakdown what)) :
    (outcomeOfAll target method replies).bind finish = .error (breakdownFault target.endpoint what) ∧
      ((outcomeOfAll target method replies).bind finish).mapError Fault.kind? = .error none := by
  rw [outcomeOfAll, h]
  refine ⟨rfl, ?_⟩
  -- what decides is no transport failure
  have hwhat := List.find?_some h
  cases what with
  | transport => cases hwhat
  | _ => rfl

/-- An endpoint is not reached exactly if no reply decides. -/
theorem transport_iff_unreachable (hfinish : Finishes value finish) :
    ((outcomeOfAll target method replies).bind finish).mapError Fault.kind?
        = .error (some .transport) ↔
      ∀ reply ∈ replies, reply.isUnreachable = true := by
  rw [← deciding?_eq_none]
  cases hdeciding : deciding? replies with
  | none =>
    rw [outcomeOfAll, hdeciding]
    exact iff_of_true rfl rfl
  | some reply =>
    refine iff_of_false ?_ (by simp)
    cases reply with
    | response response =>
      cases htext : response.text with
      | error crash =>
        rw [crash_of_unread hdeciding htext]
        nofun
      | ok body =>
        rw [kind_of_response hfinish hdeciding htext]
        intro hkind
        have hruling := ruling_ne_transport value body
        cases hbody : ruling value body with
        | ok a =>
          rw [hbody] at hkind
          cases hkind
        | error kind =>
          rw [hbody] at hkind hruling
          cases hkind
          exact hruling rfl
    | breakdown what =>
      rw [(crash_of_breakdown hdeciding).2]
      simp

end

/-- The HTTP library accepts the headers of a target, and reads the answer that decides as text. -/
structure IsHeard (target : Target) (c : Connection) : Prop where
  accepted : c.refusal? (sentHeaders target) = none
  read : IsRead (c.outcomes target.endpoint target.retry.attempts)

/-- An operation that makes a value of the result of a method is answered, if it is heard. -/
theorem answered_of_isHeard (hfinish : Finishes value finish) (hheard : IsHeard target c)
    (hscript : c.script.isSome = true) :
    Answered target method params value c
      ((ask target method params c).1.bind finish, (ask target method params c).2) := by
  obtain ⟨hresult, hasked⟩ := ask_eq method params hheard.accepted hscript
  rw [hresult]
  refine ⟨?_, transport_iff_unreachable hfinish, fun response hresponse => ?_,
    fun what => crash_of_breakdown⟩
  · have hrecorded := hasked.recorded
    rw [tries, Connection.length_outcomes] at hrecorded
    exact hrecorded
  · have hread := hheard.read response hresponse
    cases htext : response.text with
    | ok body => exact kind_of_response hfinish hresponse htext
    | error crash =>
      rw [htext] at hread
      cases hread

/-- Without a request there is no answer. -/
theorem not_answered_of_unsent {result : Except Fault α} :
    ¬Answered target method params value c (result, c) := by
  intro h
  -- one request at least would have been recorded
  have hsent := congrArg List.length h.sent
  have hpos := target.retry.attempts_pos
  simp only [List.length_append, List.length_map, List.length_range] at hsent
  omega

/-- What is answered was heard. -/
theorem isHeard_of_answered (hscript : c.script.isSome = true)
    (h : Answered target method params value c
      ((ask target method params c).1.bind finish, (ask target method params c).2)) :
    IsHeard target c := by
  have haccepted : c.refusal? (sentHeaders target) = none := by
    cases hrefusal : c.refusal? (sentHeaders target) with
    | none => rfl
    | some crash =>
      rw [ask_of_refused hrefusal] at h
      exact absurd h not_answered_of_unsent
  refine ⟨haccepted, fun response hresponse => ?_⟩
  cases htext : response.text with
  | ok body => rfl
  | error crash =>
    -- a body that cannot be read would be an invalid response, and is a crash
    have hdecided := h.decided response hresponse
    rw [(ask_eq method params haccepted hscript).1, crash_of_unread hresponse htext, htext]
      at hdecided
    cases hdecided

end

/-- Listing and calling tools come to what the replies of the endpoint make of them exactly if the
HTTP library accepts the headers and reads the deciding answer as text. With headers that it refuses
nothing is sent at all, and either failure of the library ends the operation as it is. -/
theorem answered_iff_isHeard (target : Target) {c : Connection} (hscript : c.script.isSome = true) :
    (Answered target "tools/list" (.map []) listedTools c (listTools target c) ↔
        IsHeard target c) ∧
      (∀ tool arguments, Answered target "tools/call" (callParams tool arguments)
          (fun result => some (calledContent result)) c (callTool target tool arguments c) ↔
        IsHeard target c) ∧
      (∀ crash, c.refusal? (sentHeaders target) = some crash →
        listTools target c = (.error (.crash crash), c) ∧
          ∀ tool arguments, callTool target tool arguments c = (.error (.crash crash), c)) ∧
      ∀ response crash, c.refusal? (sentHeaders target) = none →
        deciding? (c.outcomes target.endpoint target.retry.attempts) = some (.response response) →
        response.text = .error crash →
        (listTools target c).1 = .error (.crash crash) ∧
          ∀ tool arguments, (callTool target tool arguments c).1 = .error (.crash crash) := by
  rw [listTools_eq]
  simp only [callTool_eq]
  refine ⟨⟨isHeard_of_answered hscript, fun h => answered_of_isHeard finishes_toolsOf h hscript⟩,
    fun tool arguments => ⟨isHeard_of_answered hscript,
      fun h => answered_of_isHeard finishes_contentOf h hscript⟩, ?_, ?_⟩
  · intro crash hrefused
    simp only [ask_of_refused hrefused]
    exact ⟨rfl, fun _ _ => rfl⟩
  · intro response crash haccepted hresponse htext
    rw [(ask_eq _ _ haccepted hscript).1]
    refine ⟨crash_of_unread hresponse htext, fun tool arguments => ?_⟩
    rw [(ask_eq _ _ haccepted hscript).1]
    exact crash_of_unread hresponse htext

/-- A target with three tries and a token. -/
def threeTries : Target :=
  { endpoint := "https://crm.example/mcp"
    headers := [("Authorization", "Bearer token")]
    timeout := .ofRatio false 60 1
    retry := .ofInts 3 0 0 }

/-- An endpoint that cannot be reached at first and then answers with an error beside a result. -/
def unsteady : Connection :=
  .ofScript (some [("https://crm.example/mcp", [.breakdown .transport,
    .response ⟨503, .ok "\x7b\"error\": 1, \"result\": \x7b\x7d\x7d"⟩])])

theorem isHeard_unsteady : IsHeard threeTries unsteady := by
  refine ⟨by decide, fun response hresponse => ?_⟩
  have hdeciding : deciding? (unsteady.outcomes threeTries.endpoint threeTries.retry.attempts)
      = some (.response ⟨503, .ok "\x7b\"error\": 1, \"result\": \x7b\x7d\x7d"⟩) := rfl
  rw [hdeciding] at hresponse
  cases hresponse
  rfl

theorem answered_unsteady :
    unsteady.script.isSome = true ∧ IsHeard threeTries unsteady ∧
      Answered threeTries "tools/list" (.map []) listedTools unsteady
        (listTools threeTries unsteady) :=
  ⟨rfl, isHeard_unsteady, (answered_iff_isHeard threeTries rfl).1.2 isHeard_unsteady⟩

/-- A header that is not ASCII keeps a request from being sent, whatever the endpoint would answer. -/
theorem listTools_accented :
    listTools { threeTries with headers := [("X-Name", "é")] } unsteady
        = (.error (.crash .notAscii), unsteady) ∧
      ¬Answered { threeTries with headers := [("X-Name", "é")] } "tools/list" (.map []) listedTools
        unsteady (listTools { threeTries with headers := [("X-Name", "é")] } unsteady) := by
  have hrefused : unsteady.refusal? (sentHeaders { threeTries with headers := [("X-Name", "é")] })
      = some .notAscii := by decide
  have hlist : listTools { threeTries with headers := [("X-Name", "é")] } unsteady
      = (.error (.crash .notAscii), unsteady) := by
    rw [listTools_eq, ask_of_refused hrefused]
    rfl
  refine ⟨hlist, ?_⟩
  rw [hlist]
  exact not_answered_of_unsent

end Rpc
end ToolBindings
