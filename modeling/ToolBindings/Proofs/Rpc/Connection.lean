import ToolBindings.Proofs.Data.Entries
import ToolBindings.Rpc.Connection

/-!
# Requests on a connection

What an endpoint is going to answer (`Connection.upcoming`), and what a connection is after requests
to one endpoint (`Connection.Asked`): they are recorded in order and have used up the replies that
were next, and every other endpoint is going to answer what it was going to answer before.
-/

namespace ToolBindings

/-- No answer comes. -/
def Reply.isUnreachable : Reply → Bool
  | .breakdown .transport => true
  | _ => false

/-- An answer comes whose text can be read, or a transport failure. -/
def Reply.isOrdinary : Reply → Bool
  | .response r => r.text.isOk
  | .breakdown what => what matches .transport

/-- The request that an event is. -/
def ConnectionEvent.request? : ConnectionEvent → Option Request
  | .request r => some r
  | .pause _ => none

namespace Connection

/-- The requests that were sent, in order. -/
def requests (c : Connection) : List Request := c.events.filterMap ConnectionEvent.request?

/-- The reply after `i` others in a list whose last reply stands for all further ones. -/
def replyAt (replies : List Reply) (i : Nat) : Reply :=
  (replies[i]?.or replies.getLast?).getD (.breakdown .transport)

/-- What an endpoint is going to answer to the request after `i` others. -/
def upcoming (c : Connection) (endpoint : String) (i : Nat) : Reply :=
  replyAt (((c.script.getD []).get? endpoint).getD []) i

/-- What an endpoint is going to answer to the next `n` requests. -/
def outcomes (c : Connection) (endpoint : String) (n : Nat) : List Reply :=
  (List.range n).map (c.upcoming endpoint)

/-- No endpoint is going to do anything but answer with a text or fail to be reached. -/
def Ordinary (c : Connection) : Prop := ∀ endpoint i, (c.upcoming endpoint i).isOrdinary = true

variable {c c' c'' : Connection} {endpoint : String} {n : Nat}

@[simp] theorem length_outcomes (c : Connection) (endpoint : String) (n : Nat) :
    (c.outcomes endpoint n).length = n := by simp [outcomes]

/-- A scripted endpoint answers by its script, as far as that goes. -/
theorem outcomes_of_script {script : Entries String (List Reply)} {replies : List Reply}
    (hscript : c.script = some script) (hreplies : Entries.get? endpoint script = some replies) :
    c.outcomes endpoint replies.length = replies := by
  refine List.ext_getElem (by simp) fun i hi hi' => ?_
  simp [outcomes, upcoming, replyAt, hscript, hreplies, hi']

theorem takeReply_fst (replies : List Reply) : (takeReply replies).1 = replyAt replies 0 := by
  match replies with
  | [] => rfl
  | [_] => rfl
  | _ :: _ :: _ => rfl

/-- The replies after the next one; the last one is never used up. -/
theorem replyAt_takeReply (replies : List Reply) (i : Nat) :
    replyAt (takeReply replies).2 i = replyAt replies (i + 1) := by
  match replies with
  | [] => rfl
  | [last] => cases i <;> rfl
  | reply :: next :: rest => simp [takeReply, replyAt]

theorem eq_nil_of_takeReply {replies : List Reply} (h : (takeReply replies).2 = []) :
    replies = [] := by
  match replies with
  | [] => rfl
  | [_] => simp [takeReply] at h
  | _ :: _ :: _ => simp [takeReply] at h

/-! ## Requests to one endpoint -/

/-- A connection after requests to an endpoint, with notes and pauses between them. -/
structure Asked (endpoint : String) (requests : List Request) (c c' : Connection) : Prop where
  scripted : c'.script.isSome = true
  refusal : c'.refusal? = c.refusal?
  sent : c'.sent = c.sent + requests.length
  recorded : c'.requests = c.requests ++ requests
  next : ∀ i, c'.upcoming endpoint i = c.upcoming endpoint (requests.length + i)
  others : ∀ e, e ≠ endpoint → c'.upcoming e = c.upcoming e

theorem Asked.trans {requests requests' : List Request} (h : Asked endpoint requests c c')
    (h' : Asked endpoint requests' c' c'') : Asked endpoint (requests ++ requests') c c'' where
  scripted := h'.scripted
  refusal := h'.refusal.trans h.refusal
  sent := by rw [h'.sent, h.sent, List.length_append, Nat.add_assoc]
  recorded := by rw [h'.recorded, h.recorded, List.append_assoc]
  next i := by rw [h'.next, h.next, List.length_append, Nat.add_assoc]
  others e he := by rw [h'.others e he, h.others e he]

theorem asked_note (endpoint : String) (note : RetryNote) (h : c.script.isSome = true) :
    Asked endpoint [] c (c.note note) :=
  ⟨h, rfl, rfl, by simp [requests, Connection.note], by simp [upcoming, Connection.note], fun _ _ => rfl⟩

theorem asked_pause (endpoint : String) (milliseconds : Nat) (h : c.script.isSome = true) :
    Asked endpoint [] c (c.pause milliseconds) :=
  ⟨h, rfl, rfl, by simp [requests, pause, record, ConnectionEvent.request?],
    by simp [upcoming, pause, record], fun _ _ => rfl⟩

theorem Asked.ordinary {requests : List Request} (h : Asked endpoint requests c c')
    (hc : c.Ordinary) : c'.Ordinary := by
  intro e i
  -- the endpoint itself answers what it would have answered later, and the others what they would
  by_cases he : e = endpoint
  · rw [he, h.next]
    exact hc _ _
  · rw [h.others e he]
    exact hc e i

/-- The outcomes to come are the next one and those after a request. -/
theorem Asked.outcomes {requests : List Request} (h : Asked endpoint requests c c')
    (hone : requests.length = 1) (n : Nat) :
    c.outcomes endpoint (n + 1) = c.upcoming endpoint 0 :: c'.outcomes endpoint n := by
  have hnext : c'.upcoming endpoint = fun i => c.upcoming endpoint (i + 1) := by
    funext i
    rw [h.next, hone, Nat.add_comm]
  rw [Connection.outcomes, Connection.outcomes, hnext, List.range_succ_eq_map, List.map_cons,
    List.map_map]
  rfl

/-- A request takes the next reply of its endpoint. -/
theorem asked_send (h : c.script.isSome = true) (request : Request) :
    (c.send request).1 = c.upcoming request.endpoint 0 ∧
      Asked request.endpoint [request] c (c.send request).2 := by
  obtain ⟨script, hscript⟩ := Option.isSome_iff_exists.1 h
  let replies := (Entries.get? request.endpoint script).getD []
  have hreply : (c.send request).1 = (takeReply replies).1 := by
    rw [send, hscript]
  have hscript' : (c.send request).2.script
      = some (if (takeReply replies).2.isEmpty then script
          else Entries.put request.endpoint (takeReply replies).2 script) := by
    rw [send, hscript]
  -- an endpoint without replies has none put; otherwise its replies are those after the next one
  have hget (e : String) : (((c.send request).2.script.getD []).get? e).getD []
      = if request.endpoint = e then (takeReply replies).2
        else (Entries.get? e script).getD [] := by
    rw [hscript', Option.getD_some]
    split
    · rename_i hempty
      rw [List.isEmpty_iff] at hempty
      split
      · rename_i he
        rw [hempty, ← he]
        exact eq_nil_of_takeReply hempty
      · rfl
    · rw [Entries.get?_put]
      split <;> rfl
  refine ⟨?_, ?_, ?_, ?_, ?_, ?_, ?_⟩
  · rw [hreply, takeReply_fst, upcoming, hscript]
    rfl
  · rw [hscript']
    rfl
  · rw [send, hscript]
    rfl
  · rw [send, hscript]
    rfl
  · rw [send, hscript]
    simp [requests, record, ConnectionEvent.request?]
  · intro i
    rw [upcoming, hget, if_pos rfl, replyAt_takeReply, upcoming, hscript, Nat.add_comm]
    rfl
  · intro e he
    funext i
    rw [upcoming, hget, if_neg (Ne.symm he), upcoming, hscript]
    rfl

end Connection
end ToolBindings
