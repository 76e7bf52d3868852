import Mathlib.Algebra.Group.Nat.Defs
import ToolBindings.Proofs.Server.Retry
import ToolBindings.Server.Basic

/-!
# Traces of retries

What is seen of a run from outside: its tries, what it notes and how long it pauses, in order. For an
operation that comes to whatever outcomes, one after the other, `traced_run` says all of it in closed
form. The cap bounds every pause but the first (`capped_tail_pauses`), and so all of them exactly if
there is one try only or the backoff is within the cap (`capped_iff_backoff_le`).
-/

namespace ToolBindings

/-- What is seen of a run. -/
inductive RetryEvent (ε : Type) where
  | tried
  | noted (attempt : Nat) (fault : ε)
  | paused (milliseconds : Nat)

namespace RetryPolicy

variable {ε α : Type} {policy : RetryPolicy} {isTransient : ε → Bool}
  {outcomes : Nat → Except ε α}

/-! ## Pauses -/

/-- The length of the pause after `i` others: the backoff, doubled `i` times but no longer than the
cap. The first pause is not capped, and none is doubled where there is no cap. -/
def pauseAfter (policy : RetryPolicy) (i : Nat) : Nat :=
  if i = 0 ∨ policy.cap = 0 then policy.backoff else min (policy.backoff * 2 ^ i) policy.cap

theorem pauseAfter_zero (policy : RetryPolicy) : policy.pauseAfter 0 = policy.backoff := by
  simp [pauseAfter]

theorem pauseAfter_succ (hcap : 0 < policy.cap) (i : Nat) :
    policy.pauseAfter (i + 1) = min (policy.backoff * 2 ^ (i + 1)) policy.cap := by
  rw [pauseAfter, if_neg (by omega)]

theorem nextPause_pauseAfter (policy : RetryPolicy) (i : Nat) :
    policy.nextPause (policy.pauseAfter i) = policy.pauseAfter (i + 1) := by
  rw [nextPause]
  by_cases hcap : 0 < policy.cap
  · rw [if_pos hcap, pauseAfter_succ hcap, Nat.pow_succ, ← Nat.mul_assoc]
    cases i with
    | zero => simp [pauseAfter_zero]
    | succ i =>
      -- where the pause is the cap already, twice as much is capped again
      rw [pauseAfter_succ hcap]
      omega
  · have hnone : policy.cap = 0 := by omega
    simp [pauseAfter, hnone]

/-! ## Traces -/

/-- The number of tries in a trace. -/
def tries (trace : List (RetryEvent ε)) : Nat :=
  trace.countP fun
    | .tried => true
    | _ => false

/-- The faults in a trace after which a retry was noted, with the numbers of their tries. -/
def notes (trace : List (RetryEvent ε)) : List (Nat × ε) :=
  trace.filterMap fun
    | .noted attempt fault => some (attempt, fault)
    | _ => none

/-- The pauses in a trace. -/
def pauses (trace : List (RetryEvent ε)) : List Nat :=
  trace.filterMap fun
    | .paused milliseconds => some milliseconds
    | _ => none

/-- Notes and pauses leave a trace and nothing else. -/
def traceActions (isTransient : ε → Bool) : Actions (List (RetryEvent ε)) ε where
  isTransient := isTransient
  warn attempt fault trace := trace ++ [.noted attempt fault]
  pause milliseconds trace := trace ++ [.paused milliseconds]

/-- An operation that comes to given outcomes, one after the other. -/
def scripted (outcomes : Nat → Except ε α) (trace : List (RetryEvent ε)) :
    Except ε α × List (RetryEvent ε) :=
  (outcomes (tries trace), trace ++ [.tried])

/-- The outcome of an operation that comes to given outcomes, and the trace of the run. -/
def trace (policy : RetryPolicy) (isTransient : ε → Bool) (outcomes : Nat → Except ε α) :
    Except ε α × List (RetryEvent ε) :=
  policy.run (traceActions isTransient) (scripted outcomes) []

/-- A try that ends in a transient fault. -/
def isTransientAt (isTransient : ε → Bool) (outcomes : Nat → Except ε α) (i : Nat) : Bool :=
  match outcomes i with
  | .ok _ => false
  | .error fault => isTransient fault

/-- How many transient faults follow on each other from the outcome at `i` on, of `n` outcomes. -/
def leadingFaults (isTransient : ε → Bool) (outcomes : Nat → Except ε α) : (i n : Nat) → Nat
  | _, 0 => 0
  | i, n + 1 =>
    if isTransientAt isTransient outcomes i then leadingFaults isTransient outcomes (i + 1) n + 1
    else 0

/-- What is seen of a try that ends in a fault, and of the retry after it. -/
def retryEvents (policy : RetryPolicy) (outcomes : Nat → Except ε α) (i : Nat) :
    List (RetryEvent ε) :=
  match outcomes i with
  | .ok _ => []
  | .error fault =>
    .tried :: .noted (i + 1) fault ::
      if 0 < policy.pauseAfter i then [.paused (policy.pauseAfter i)] else []

theorem exists_error_of_isTransientAt {i : Nat}
    (h : isTransientAt isTransient outcomes i = true) :
    ∃ fault, outcomes i = .error fault ∧ isTransient fault = true := by
  rw [isTransientAt] at h
  cases houtcome : outcomes i with
  | ok value =>
    rw [houtcome] at h
    cases h
  | error fault =>
    rw [houtcome] at h
    exact ⟨fault, rfl, h⟩

theorem tries_append (before after : List (RetryEvent ε)) :
    tries (before ++ after) = tries before + tries after :=
  List.countP_append

theorem tries_retryEvents {i : Nat} {fault : ε} (h : outcomes i = .error fault) :
    tries (policy.retryEvents outcomes i) = 1 := by
  rw [retryEvents, h]
  dsimp only
  split <;> rfl

/-- The note and the pause after a try that ended in a fault complete what is seen of it. -/
theorem traced_retry {i : Nat} {fault : ε} (h : outcomes i = .error fault)
    (before : List (RetryEvent ε)) :
    (if 0 < policy.pauseAfter i then
        (traceActions isTransient).pause (policy.pauseAfter i)
          ((traceActions isTransient).warn (i + 1) fault (before ++ [.tried]))
      else (traceActions isTransient).warn (i + 1) fault (before ++ [.tried]))
        = before ++ policy.retryEvents outcomes i := by
  rw [retryEvents, h]
  dsimp only
  split <;> simp [traceActions]

/-- From any try on, each transient fault that follows is tried again while tries are left, and the
try after these decides. -/
theorem runFrom_scripted (more i : Nat) {before : List (RetryEvent ε)} (hbefore : tries before = i) :
    policy.runFrom (traceActions isTransient) (scripted outcomes) more (i + 1)
        (policy.pauseAfter i) before
      = (outcomes (i + leadingFaults isTransient outcomes i more),
        before ++ ((List.range' i (leadingFaults isTransient outcomes i more)).flatMap
          (policy.retryEvents outcomes) ++ [.tried])) := by
  induction more generalizing i before with
  | zero =>
    rw [runFrom_last, scripted, hbefore]
    rfl
  | succ more ih =>
    have htry : scripted outcomes before = (outcomes i, before ++ [.tried]) := by
      rw [scripted, hbefore]
    rw [leadingFaults]
    by_cases htransient : isTransientAt isTransient outcomes i = true
    · obtain ⟨fault, hfault, hagain⟩ := exists_error_of_isTransientAt htransient
      have hnext : tries (before ++ policy.retryEvents outcomes i) = i + 1 := by
        rw [tries_append, hbefore, tries_retryEvents hfault]
      rw [hfault] at htry
      rw [if_pos htransient, runFrom_again more (i + 1) _ htry hagain, traced_retry hfault,
        nextPause_pauseAfter, ih (i + 1) hnext, List.range'_succ]
      simp [Nat.add_assoc, Nat.add_comm]
    · rw [if_neg htransient, runFrom_settled, htry]
      · rfl
      · intro fault hfault
        rw [htry] at hfault
        rw [isTransientAt, show outcomes i = .error fault from hfault, Bool.not_eq_true] at htransient
        exact htransient

/-! ## Whole runs -/

theorem isTransientAt_of_leadingFaults {i j n : Nat}
    (h : j ∈ List.range' i (leadingFaults isTransient outcomes i n)) :
    isTransientAt isTransient outcomes j = true := by
  induction n generalizing i with
  | zero => cases h
  | succ n ih =>
    rw [leadingFaults] at h
    split at h
    · rename_i htransient
      rw [List.range'_succ] at h
      rcases List.mem_cons.1 h with rfl | h
      · exact htransient
      · exact ih h
    · cases h

/-- All tries but the last are retried: the faults that lead are counted up to there. -/
theorem leadingFaults_pred (isTransient : ε → Bool) (outcomes : Nat → Except ε α) (i n : Nat) :
    leadingFaults isTransient outcomes i n + 1
      = min (n + 1) (leadingFaults isTransient outcomes i (n + 1) + 1) := by
  induction n generalizing i with
  | zero => simp [leadingFaults]
  | succ n ih =>
    rw [leadingFaults, leadingFaults]
    split
    · have hrest := ih (i + 1)
      omega
    · omega

section

variable {retried : List Nat}
  (hretried : ∀ i ∈ retried, ∃ fault, outcomes i = .error fault)
include hretried

theorem tries_flatMap_retryEvents :
    tries (retried.flatMap (policy.retryEvents outcomes)) = retried.length := by
  induction retried with
  | nil => rfl
  | cons i rest ih =>
    obtain ⟨⟨fault, hfault⟩, hrest⟩ := List.forall_mem_cons.1 hretried
    rw [List.flatMap_cons, tries_append, tries_retryEvents hfault, ih hrest, List.length_cons,
      Nat.add_comm]

theorem notes_flatMap_retryEvents :
    (notes (retried.flatMap (policy.retryEvents outcomes))).map
        (fun note => (note.1, Except.error note.2))
      = retried.map fun i => (i + 1, outcomes i) := by
  induction retried with
  | nil => rfl
  | cons i rest ih =>
    obtain ⟨⟨fault, hfault⟩, hrest⟩ := List.forall_mem_cons.1 hretried
    have hfirst : notes (policy.retryEvents outcomes i) = [(i + 1, fault)] := by
      rw [retryEvents, hfault]
      dsimp only
      split <;> rfl
    rw [List.flatMap_cons, notes, List.filterMap_append, ← notes, ← notes, hfirst, List.map_append,
      ih hrest, List.map_cons (l := rest), hfault]
    rfl

theorem pauses_flatMap_retryEvents :
    pauses (retried.flatMap (policy.retryEvents outcomes))
      = (retried.map policy.pauseAfter).filter (0 < ·) := by
  induction retried with
  | nil => rfl
  | cons i rest ih =>
    obtain ⟨⟨fault, hfault⟩, hrest⟩ := List.forall_mem_cons.1 hretried
    have hfirst : pauses (policy.retryEvents outcomes i)
        = [policy.pauseAfter i].filter (0 < ·) := by
      rw [retryEvents, hfault]
      dsimp only
      by_cases hpause : 0 < policy.pauseAfter i <;> simp [hpause, pauses]
    rw [List.flatMap_cons, pauses, List.filterMap_append, ← pauses, ← pauses, hfirst, ih hrest,
      ← List.filter_append]
    rfl

end

/-- How often an operation with given outcomes is tried: once, and once more for each transient fault
that it begins with, as long as tries are left. -/
def triesOf (policy : RetryPolicy) (isTransient : ε → Bool) (outcomes : Nat → Except ε α) : Nat :=
  min policy.attempts (leadingFaults isTransient outcomes 0 policy.attempts + 1)

theorem triesOf_pos (policy : RetryPolicy) (isTransient : ε → Bool)
    (outcomes : Nat → Except ε α) : 0 < policy.triesOf isTransient outcomes := by
  have hpos := policy.attempts_pos
  rw [triesOf]
  omega

/-- Every try but the last ends in a transient fault and leaves what is seen of its retry. -/
theorem trace_eq (policy : RetryPolicy) (isTransient : ε → Bool) (outcomes : Nat → Except ε α) :
    policy.trace isTransient outcomes
        = (outcomes (policy.triesOf isTransient outcomes - 1),
          (List.range (policy.triesOf isTransient outcomes - 1)).flatMap
            (policy.retryEvents outcomes) ++ [.tried]) ∧
      ∀ i ∈ List.range (policy.triesOf isTransient outcomes - 1),
        ∃ fault, outcomes i = .error fault := by
  obtain ⟨n, hn⟩ : ∃ n, policy.attempts = n + 1 :=
    ⟨policy.attempts - 1, by have := policy.attempts_pos; omega⟩
  have hretries : policy.triesOf isTransient outcomes - 1
      = leadingFaults isTransient outcomes 0 n := by
    rw [triesOf, hn, ← leadingFaults_pred, Nat.add_sub_cancel]
  rw [hretries, List.range_eq_range']
  refine ⟨?_, fun i hi => ?_⟩
  · have hnone : tries ([] : List (RetryEvent ε)) = 0 := rfl
    have hrun : policy.trace isTransient outcomes = _ :=
      runFrom_scripted (policy.attempts - 1) 0 hnone
    rw [hrun, hn, Nat.add_sub_cancel, Nat.zero_add, List.nil_append]
  · obtain ⟨fault, hfault, -⟩ :=
      exists_error_of_isTransientAt (isTransientAt_of_leadingFaults hi)
    exact ⟨fault, hfault⟩

/-- The pauses of a run are those that are due after its tries but the last, where they have a
length. -/
theorem pauses_trace (policy : RetryPolicy) (isTransient : ε → Bool)
    (outcomes : Nat → Except ε α) :
    pauses (policy.trace isTransient outcomes).2
      = ((List.range (policy.triesOf isTransient outcomes - 1)).map
          policy.pauseAfter).filter (0 < ·) := by
  obtain ⟨htrace, hretried⟩ := trace_eq policy isTransient outcomes
  rw [htrace, pauses, List.filterMap_append, ← pauses, pauses_flatMap_retryEvents hretried]
  exact List.append_nil _

/-- What is seen of a run with some number of tries: the last of them decides, and each of the others
is noted with its fault and followed by the pause that is due, unless this has no length. -/
structure Seen (policy : RetryPolicy) (outcomes : Nat → Except ε α) (count : Nat)
    (result : Except ε α × List (RetryEvent ε)) : Prop where
  tried : tries result.2 = count
  decided : result.1 = outcomes (count - 1)
  noted : (notes result.2).map (fun note => (note.1, Except.error note.2))
    = (List.range (count - 1)).map fun i => (i + 1, outcomes i)
  paused : pauses result.2 = ((List.range (count - 1)).map policy.pauseAfter).filter (0 < ·)

/-- Whatever an operation comes to, one outcome after the other, it is tried as often as there are
tries left for the transient faults that it begins with, and so many tries are seen. -/
theorem traced_run (policy : RetryPolicy) (isTransient : ε → Bool)
    (outcomes : Nat → Except ε α) :
    Seen policy outcomes
      (min policy.attempts (leadingFaults isTransient outcomes 0 policy.attempts + 1))
      (policy.trace isTransient outcomes) := by
  rw [← triesOf]
  obtain ⟨htrace, hretried⟩ := trace_eq policy isTransient outcomes
  refine ⟨?_, by rw [htrace], ?_, pauses_trace policy isTransient outcomes⟩
  · have hpos := policy.triesOf_pos isTransient outcomes
    have hlast : tries [(.tried : RetryEvent ε)] = 1 := rfl
    rw [htrace, tries_append, tries_flatMap_retryEvents hretried, List.length_range, hlast]
    omega
  · rw [htrace, notes, List.filterMap_append, List.map_append, ← notes,
      notes_flatMap_retryEvents hretried]
    exact List.append_nil _

example : pauses ((ofInts 5 100 300).trace id fun i => if i < 4 then .error true else .ok ()).2
    = [100, 200, 300, 300] := by decide

/-! ## The cap -/

/-- Pauses that are no longer than a cap, and none of them shorter than an earlier one. -/
structure Capped (cap : Nat) (pauses : List Nat) : Prop where
  le : ∀ pause ∈ pauses, pause ≤ cap
  ascending : pauses.Pairwise (· ≤ ·)

theorem Capped.sublist {cap : Nat} {fewer pauses : List Nat} (h : Capped cap pauses)
    (hfewer : fewer.Sublist pauses) : Capped cap fewer :=
  ⟨fun pause hpause => h.le pause (hfewer.subset hpause), h.ascending.sublist hfewer⟩

section

variable (hcap : 0 < policy.cap)
include hcap

theorem pauseAfter_succ_le (i : Nat) : policy.pauseAfter (i + 1) ≤ policy.cap := by
  rw [pauseAfter_succ hcap]
  exact Nat.min_le_right _ _

theorem pauseAfter_le_succ {i : Nat} (h : i ≠ 0 ∨ policy.backoff ≤ policy.cap) :
    policy.pauseAfter i ≤ policy.pauseAfter (i + 1) := by
  rw [pauseAfter_succ hcap, Nat.pow_succ, ← Nat.mul_assoc]
  cases i with
  | zero =>
    rw [pauseAfter_zero]
    omega
  | succ i =>
    rw [pauseAfter_succ hcap]
    omega

/-- From the second on, pauses are capped; all are if the first is. -/
theorem capped_map_pauseAfter {i n : Nat} (h : i ≠ 0 ∨ policy.backoff ≤ policy.cap) :
    Capped policy.cap ((List.range' i n).map policy.pauseAfter) := by
  have hstep (j : Nat) (hj : i ≤ j) : policy.pauseAfter j ≤ policy.pauseAfter (j + 1) :=
    pauseAfter_le_succ hcap (h.imp_left fun hi => by omega)
  have hmono {j k : Nat} (hj : i ≤ j) (hjk : j ≤ k) :
      policy.pauseAfter j ≤ policy.pauseAfter k := by
    induction hjk with
    | refl => exact Nat.le_refl _
    | step hjk ih => exact Nat.le_trans ih (hstep _ (Nat.le_trans hj hjk))
  refine ⟨?_, ?_⟩
  · rw [List.forall_mem_map]
    intro j hj
    exact Nat.le_trans (hstep j (List.mem_range'_1.1 hj).1) (pauseAfter_succ_le hcap j)
  · rw [List.pairwise_map]
    refine (List.pairwise_lt_range' (s := i) (n := n)).imp_of_mem ?_
    intro j k hj hk hjk
    exact hmono (List.mem_range'_1.1 hj).1 (Nat.le_of_lt hjk)

/-- Whatever an operation comes to, every pause but the first is capped. -/
theorem capped_tail_pauses (isTransient : ε → Bool) (outcomes : Nat → Except ε α) :
    Capped policy.cap (pauses (policy.trace isTransient outcomes).2).tail := by
  rw [pauses_trace, List.range_eq_range']
  generalize policy.triesOf isTransient outcomes - 1 = n
  cases n with
  | zero => exact ⟨by simp, by simp⟩
  | succ n =>
    have hlater : Capped policy.cap ((List.range' (0 + 1) n).map policy.pauseAfter) :=
      capped_map_pauseAfter hcap (Or.inl (Nat.succ_ne_zero 0))
    refine hlater.sublist ?_
    -- whether the first pause has a length or not, the others are among the later ones
    rw [List.range'_succ, List.map_cons, List.filter_cons]
    split
    · exact List.filter_sublist
    · exact (List.tail_sublist _).trans List.filter_sublist

/-- Where there is one try only, or the backoff is within the cap, every pause is capped. -/
theorem capped_pauses (h : policy.attempts = 1 ∨ policy.backoff ≤ policy.cap)
    (isTransient : ε → Bool) (outcomes : Nat → Except ε α) :
    Capped policy.cap (pauses (policy.trace isTransient outcomes).2) := by
  rw [pauses_trace, List.range_eq_range']
  rcases h with honce | hbackoff
  · have hnone : policy.triesOf isTransient outcomes - 1 = 0 := by
      rw [triesOf]
      omega
    rw [hnone]
    exact ⟨by simp, by simp⟩
  · exact (capped_map_pauseAfter hcap (Or.inr hbackoff)).sublist List.filter_sublist

end

theorem leadingFaults_of_forall {fault : ε} (h : isTransient fault = true) (i n : Nat) :
    leadingFaults isTransient (fun _ => (.error fault : Except ε α)) i n = n := by
  induction n generalizing i with
  | zero => rfl
  | succ n ih =>
    have hhere : isTransientAt isTransient (fun _ => (.error fault : Except ε α)) i = true := h
    rw [leadingFaults, if_pos hhere, ih]

/-- What cannot be reached at all is waited for with every pause that the policy has. -/
theorem pauses_of_forall (policy : RetryPolicy) {fault : ε} (h : isTransient fault = true) :
    pauses (policy.trace isTransient fun _ => (.error fault : Except ε α)).2
      = ((List.range (policy.attempts - 1)).map policy.pauseAfter).filter (0 < ·) := by
  rw [pauses_trace, triesOf, leadingFaults_of_forall h, Nat.min_eq_left (Nat.le_succ _)]

/-- Whatever an operation comes to, every pause but the first is capped. The first is the backoff, so
that all of them are capped exactly if there is one try only or the backoff is within the cap. -/
theorem capped_iff_backoff_le (policy : RetryPolicy) (hcap : 0 < policy.cap) :
    (∀ outcomes : Nat → Except Fault α,
      Capped policy.cap (pauses (policy.trace Fault.isTransient outcomes).2).tail) ∧
    ((∀ outcomes : Nat → Except Fault α,
        Capped policy.cap (pauses (policy.trace Fault.isTransient outcomes).2)) ↔
      policy.attempts = 1 ∨ policy.backoff ≤ policy.cap) := by
  refine ⟨capped_tail_pauses hcap _, fun h => ?_, fun h => capped_pauses hcap h _⟩
  have hpos := policy.attempts_pos
  by_cases honce : policy.attempts = 1
  · exact Or.inl honce
  · -- a backoff of some length is the first pause before a second try
    refine Or.inr (Nat.le_of_not_lt fun hlong => ?_)
    have hall := h fun _ => .error (.failure (.unreachable ""))
    rw [pauses_of_forall policy rfl] at hall
    have hfirst : policy.backoff
        ∈ ((List.range (policy.attempts - 1)).map policy.pauseAfter).filter (0 < ·) := by
      rw [List.mem_filter, decide_eq_true_iff]
      refine ⟨?_, by omega⟩
      rw [← pauseAfter_zero policy]
      exact List.mem_map_of_mem (List.mem_range.2 (by omega))
    exact Nat.not_le_of_lt hlong (hall.le _ hfirst)

/-- A server that sets some retry values, beside those of the package. -/
def policyOf (own : Entries String ConfigValue) : RetryPolicy :=
  Server.retryPolicy Settings.defaultRetry
    { slug := "crm"
      endpoint := some "https://crm.example/mcp"
      endpointVariable := none
      timeout := Server.defaultTimeout
      auth := none
      retry := own
      manifest := none }

theorem capped_iff_backoff_le_crm :
    0 < (policyOf [("attempts", .int 3), ("backoff_ms", .int 150)]).cap ∧
      ∀ outcomes : Nat → Except Fault Json,
        Capped 1000 (pauses ((policyOf [("attempts", .int 3), ("backoff_ms", .int 150)]).trace
          Fault.isTransient outcomes).2) :=
  have hcap : 0 < (policyOf [("attempts", .int 3), ("backoff_ms", .int 150)]).cap := by decide
  ⟨hcap, (capped_iff_backoff_le _ hcap).2.2 (Or.inr (by decide))⟩

/-- A server that sets a backoff of five seconds, and leaves the cap of one second as it is, waits for
five seconds first and for one second after that. -/
theorem pauses_longBackoff :
    (policyOf [("attempts", .int 3), ("backoff_ms", .int 5000)]).cap = 1000 ∧
      pauses ((policyOf [("attempts", .int 3), ("backoff_ms", .int 5000)]).trace Fault.isTransient
        fun _ => (.error (.failure (.unreachable "https://crm.example/mcp")) :
          Except Fault Json)).2 = [5000, 1000] := by
  decide

end RetryPolicy
end ToolBindings
