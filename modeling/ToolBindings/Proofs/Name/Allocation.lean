import Mathlib.Data.List.Nodup
import Mathlib.Data.List.Perm.Subperm
import Mathlib.Order.Bounds.Defs
import ToolBindings.Name.Claimed
import ToolBindings.Proofs.Text.Digits

/-!
# Names given out in one pass

A name that is given out was free, and giving it out claims this one name. Only a taken base name
where no suffix is allowed gives none, and then nothing is claimed. The search for a free counter
ends because counted names differ, so that they cannot all be taken (`freeCounter_not_mem`).

`Request` is what can be asked of claimed names, `Claimed.turns` what comes of asking one thing
after the other, and `turns_lawful` says what holds of every such run.
-/

namespace ToolBindings.Name

namespace Claimed

variable {claimed next : Claimed} {name other base mark stem : String}

@[simp] theorem not_mem_empty (name : String) : name ∉ empty := List.not_mem_nil

theorem mem_claim : other ∈ claimed.claim name ↔ other = name ∨ other ∈ claimed := by
  show other ∈ (claimed.claim name).names ↔ other = name ∨ other ∈ claimed.names
  unfold claim
  split
  · rename_i h
    constructor
    · exact Or.inr
    · rintro (rfl | hother)
      · exact h
      · exact hother
  · exact List.mem_cons

theorem size_claim (h : name ∉ claimed) : (claimed.claim name).size = claimed.size + 1 := by
  have hnot : name ∉ claimed.names := h
  rw [size, claim, dif_neg hnot, size, List.length_cons]

/-! ## Free counters -/

theorem counted_injective (stem : String) : Function.Injective (counted stem) := by
  intro k l h
  have htexts : stem.toList ++ Text.decimal k = stem.toList ++ Text.decimal l := by
    have hlists := congrArg String.toList h
    simpa [counted] using hlists
  have hvalues := congrArg Text.decimalValue (List.append_cancel_left htexts)
  simpa using hvalues

theorem le_freeCounter (claimed : Claimed) (stem : String) (tries counter : Nat) :
    counter ≤ claimed.freeCounter stem tries counter := by
  induction tries generalizing counter with
  | zero => exact Nat.le_refl counter
  | succ tries ih =>
    unfold freeCounter
    split
    · exact Nat.le_of_succ_le (ih (counter + 1))
    · exact Nat.le_refl counter

/-- Every counter that is passed over is taken. -/
theorem mem_of_lt_freeCounter {tries counter k : Nat} (hle : counter ≤ k)
    (hlt : k < claimed.freeCounter stem tries counter) : counted stem k ∈ claimed := by
  induction tries generalizing counter with
  | zero =>
    unfold freeCounter at hlt
    omega
  | succ tries ih =>
    unfold freeCounter at hlt
    split at hlt
    · rename_i htaken
      by_cases hk : k = counter
      · exact hk ▸ htaken
      · exact ih (by omega) hlt
    · omega

/-- A search that finds no free counter has tried them all. -/
theorem freeCounter_eq_of_mem {tries counter : Nat}
    (h : counted stem (claimed.freeCounter stem tries counter) ∈ claimed) :
    claimed.freeCounter stem tries counter = counter + tries := by
  induction tries generalizing counter with
  | zero => rfl
  | succ tries ih =>
    unfold freeCounter at h ⊢
    split
    · rename_i htaken
      rw [if_pos htaken] at h
      rw [ih h]
      omega
    · rename_i hfree
      rw [if_neg hfree] at h
      exact absurd h hfree

/-- Counters in a row whose names are all taken are no more than there are names. -/
theorem le_size_of_taken (start n : Nat)
    (h : ∀ k, start ≤ k → k < start + n → counted stem k ∈ claimed) : n ≤ claimed.size := by
  have htaken : (List.range' start n).map (counted stem) ⊆ claimed.names := by
    intro name hname
    obtain ⟨k, hk, rfl⟩ := List.mem_map.1 hname
    rw [List.mem_range'_1] at hk
    exact h k hk.1 hk.2
  have hnodup : ((List.range' start n).map (counted stem)).Nodup :=
    List.Nodup.map (counted_injective stem) (List.nodup_range' 1)
  have hlength := (List.subperm_of_subset hnodup htaken).length_le
  rwa [List.length_map, List.length_range'] at hlength

/-- Of one counted name more than there are names one is free. -/
theorem freeCounter_not_mem (claimed : Claimed) (stem : String) (counter : Nat) :
    counted stem (claimed.freeCounter stem (claimed.size + 1) counter) ∉ claimed := by
  intro hmem
  have hend := freeCounter_eq_of_mem hmem
  -- all the names that were tried are taken, one more than there are
  have htaken : ∀ k, counter ≤ k → k < counter + (claimed.size + 1) →
      counted stem k ∈ claimed := by
    intro k hk hlt
    rw [← hend] at hlt
    exact mem_of_lt_freeCounter hk hlt
  have hall := le_size_of_taken counter (claimed.size + 1) htaken
  omega

/-- The counter that is found is the least with a free name. -/
theorem isLeast_freeCounter (claimed : Claimed) (stem : String) (start : Nat) :
    IsLeast {k | start ≤ k ∧ counted stem k ∉ claimed}
      (claimed.freeCounter stem (claimed.size + 1) start) := by
  refine ⟨⟨le_freeCounter claimed stem _ start, freeCounter_not_mem claimed stem start⟩, ?_⟩
  rintro k ⟨hk, hfree⟩
  by_contra hlt
  exact hfree (mem_of_lt_freeCounter hk (Nat.lt_of_not_le hlt))

/-! ## Allocation -/

/-- A suffixed name is free. -/
theorem suffixed_not_mem (claimed : Claimed) (base mark : String) :
    claimed.suffixed base mark ∉ claimed := by
  unfold suffixed
  dsimp only
  split
  · exact freeCounter_not_mem claimed (base ++ mark) 2
  · assumption

variable {suffixes : Bool} {collision fault : Collision}

/-- No name is given exactly if the base name is taken and no suffix is allowed. -/
theorem allocate_eq_error :
    claimed.allocate base mark suffixes collision = .error fault ↔
      fault = collision ∧ suffixes = false ∧ base ∈ claimed := by
  unfold allocate
  by_cases hbase : base ∈ claimed
  · cases suffixes with
    | false => simp [hbase, eq_comm]
    | true => simp [hbase]
  · simp [hbase]

/-- A name that is given was free, and it is what is claimed. -/
theorem allocate_ok (h : claimed.allocate base mark suffixes collision = .ok (name, next)) :
    name ∉ claimed ∧ next = claimed.claim name := by
  unfold allocate at h
  split at h
  · split at h
    · cases h
      exact ⟨suffixed_not_mem claimed base mark, rfl⟩
    · cases h
  · rename_i hfree
    cases h
    exact ⟨hfree, rfl⟩

end Claimed

/-! ## Runs -/

/-- What may be asked of claimed names: to add a name, or to give one out to a tool or a toolset. -/
inductive Request where
  | claim (name : String)
  | tool (server tool : String) (suffixes : Bool)
  | toolset (server : String) (suffixes : Bool)

namespace Request

/-- The collision that is possible; none where a given name is added. -/
def collision? : Request → Option Collision
  | .claim _ => none
  | .tool server called _ => some (.tool server called (toolBase server called))
  | .toolset server _ => some (.toolset server (toolsetBase server))

/-- The name that is tried first. -/
def base : Request → String
  | .claim name => name
  | .tool server called _ => toolBase server called
  | .toolset server _ => toolsetBase server

/-- Another name than the first will do. -/
def suffixes : Request → Bool
  | .claim _ => false
  | .tool _ _ suffixes | .toolset _ suffixes => suffixes

/-- A name is given out. -/
def allocates (request : Request) : Prop := request.collision?.isSome

end Request

/-- One request: the names before it, what came of it, and the names after it. -/
structure Turn where
  before : Claimed
  request : Request
  outcome : Except Collision String
  after : Claimed

namespace Claimed

/-- What comes of a request. -/
def answer (claimed : Claimed) : Request → Except Collision (String × Claimed)
  | .claim name => .ok (name, claimed.claim name)
  | .tool server tool suffixes => claimed.allocateTool server tool suffixes
  | .toolset server suffixes => claimed.allocateToolset server suffixes

/-- A request carried out; a collision leaves the names that were there. -/
def turn (claimed : Claimed) (request : Request) : Turn :=
  match claimed.answer request with
  | .ok (name, next) => ⟨claimed, request, .ok name, next⟩
  | .error collision => ⟨claimed, request, .error collision, claimed⟩

/-- Requests carried out one after the other. -/
def turns (claimed : Claimed) : List Request → List Turn
  | [] => []
  | request :: rest => claimed.turn request :: turns (claimed.turn request).after rest

end Claimed

/-- What holds of every turn: whether it fails, and what is claimed after it. -/
structure Turn.Lawful (t : Turn) : Prop where
  /-- It fails exactly if no suffix is allowed and the base name is taken. -/
  fails : ∀ collision, t.outcome = .error collision ↔
    t.request.collision? = some collision ∧ t.request.suffixes = false ∧ t.request.base ∈ t.before
  unchanged : ∀ collision, t.outcome = .error collision → t.after = t.before
  /-- Exactly the name is added. -/
  added : ∀ name, t.outcome = .ok name → ∀ other, other ∈ t.after ↔ other = name ∨ other ∈ t.before
  /-- A name that is given out is a new one. -/
  fresh : t.request.allocates → ∀ name, t.outcome = .ok name →
    name ∉ t.before ∧ t.after.size = t.before.size + 1

namespace Claimed

variable (claimed : Claimed)

@[simp] theorem turn_before (request : Request) : (claimed.turn request).before = claimed := by
  unfold turn
  split <;> rfl

@[simp] theorem turn_request (request : Request) : (claimed.turn request).request = request := by
  unfold turn
  split <;> rfl

/-- A request that may collide is the allocation of its base name. -/
private theorem answer_of_collision? {request : Request} {collision : Collision}
    (h : request.collision? = some collision) :
    ∃ mark, claimed.answer request
      = claimed.allocate request.base mark request.suffixes collision := by
  cases request with
  | claim name => cases h
  | tool server tool suffixes =>
    cases h
    exact ⟨_, rfl⟩
  | toolset server suffixes =>
    cases h
    exact ⟨_, rfl⟩

theorem turn_lawful (request : Request) : (claimed.turn request).Lawful := by
  -- a claim as such always succeeds; what allocates may fail, and says so by its own collision
  cases hcollision : request.collision? with
  | none =>
    cases request with
    | claim name =>
      refine ⟨?_, nofun, ?_, ?_⟩
      · intro collision
        refine ⟨nofun, ?_⟩
        rintro ⟨hnone, -⟩
        cases hnone
      · rintro _ ⟨⟩ other
        exact mem_claim
      · intro hallocates
        rw [turn_request] at hallocates
        cases hallocates
    | tool server tool suffixes => cases hcollision
    | toolset server suffixes => cases hcollision
  | some possible =>
    obtain ⟨mark, hanswer⟩ := answer_of_collision? claimed hcollision
    cases hresult : claimed.answer request with
    | error fault =>
      have hturn : claimed.turn request = ⟨claimed, request, .error fault, claimed⟩ := by
        rw [turn, hresult]
      have hfails := allocate_eq_error.1 (hanswer ▸ hresult)
      rw [hturn]
      refine ⟨?_, fun _ _ => rfl, nofun, nofun⟩
      intro collision
      rw [hcollision]
      constructor
      · rintro ⟨⟩
        exact ⟨congrArg some hfails.1.symm, hfails.2⟩
      · rintro ⟨⟨⟩, -⟩
        exact congrArg Except.error hfails.1
    | ok result =>
      obtain ⟨name, next⟩ := result
      have hturn : claimed.turn request = ⟨claimed, request, .ok name, next⟩ := by
        rw [turn, hresult]
      rw [hanswer] at hresult
      obtain ⟨hfree, rfl⟩ := allocate_ok hresult
      rw [hturn]
      refine ⟨?_, nofun, ?_, ?_⟩
      · intro collision
        refine ⟨nofun, ?_⟩
        rintro ⟨-, hsuffixes, hbase⟩
        rw [allocate_eq_error.2 ⟨rfl, hsuffixes, hbase⟩] at hresult
        cases hresult
      · rintro _ ⟨⟩ other
        exact mem_claim
      · rintro - _ ⟨⟩
        exact ⟨hfree, size_claim hfree⟩

/-- What is claimed stays claimed. -/
theorem mem_turn_after {request : Request} {name : String} (h : name ∈ claimed) :
    name ∈ (claimed.turn request).after := by
  have hlawful := turn_lawful claimed request
  cases houtcome : (claimed.turn request).outcome with
  | ok given =>
    rw [hlawful.added given houtcome, turn_before]
    exact Or.inr h
  | error collision =>
    rw [hlawful.unchanged collision houtcome, turn_before]
    exact h

/-- A name that came of a request is claimed after it. -/
theorem mem_after_of_outcome {request : Request} {name : String}
    (h : (claimed.turn request).outcome = .ok name) : name ∈ (claimed.turn request).after :=
  ((turn_lawful claimed request).added name h name).2 (Or.inl rfl)

variable {claimed} {requests : List Request}

theorem lawful_of_mem_turns {t : Turn} (h : t ∈ claimed.turns requests) : t.Lawful := by
  induction requests generalizing claimed with
  | nil => cases h
  | cons request rest ih =>
    rcases List.mem_cons.1 h with rfl | h
    · exact turn_lawful claimed request
    · exact ih h

/-- The names from the start are there at every turn. -/
theorem mem_before_of_mem_turns {t : Turn} {name : String} (hname : name ∈ claimed)
    (h : t ∈ claimed.turns requests) : name ∈ t.before := by
  induction requests generalizing claimed with
  | nil => cases h
  | cons request rest ih =>
    rcases List.mem_cons.1 h with rfl | h
    · rwa [turn_before]
    · exact ih (mem_turn_after claimed hname) h

/-- At every turn the names are there that came of earlier ones. -/
theorem pairwise_turns (claimed : Claimed) (requests : List Request) :
    (claimed.turns requests).Pairwise fun earlier later =>
      ∀ name, earlier.outcome = .ok name → name ∈ later.before := by
  induction requests generalizing claimed with
  | nil => exact List.Pairwise.nil
  | cons request rest ih =>
    refine List.pairwise_cons.2 ⟨?_, ih _⟩
    intro later hlater name hname
    exact mem_before_of_mem_turns (mem_after_of_outcome claimed hname) hlater

/-- The turns of a run follow on each other. -/
theorem isChain_turns (claimed : Claimed) (requests : List Request) :
    (claimed.turns requests).IsChain fun t t' => t'.before = t.after := by
  induction requests generalizing claimed with
  | nil => exact List.IsChain.nil
  | cons request rest ih =>
    cases rest with
    | nil => exact List.IsChain.singleton _
    | cons request' rest =>
      exact List.IsChain.cons_cons (turn_before _ request') (ih _)

theorem map_request_turns (claimed : Claimed) (requests : List Request) :
    (claimed.turns requests).map Turn.request = requests := by
  induction requests generalizing claimed with
  | nil => rfl
  | cons request rest ih => rw [turns, List.map_cons, turn_request, ih]

/-- However names were claimed before and whatever is asked for: every request is answered in turn
and lawfully, and a name that is given out is none of those from the start and none that came of an
earlier request, be it added or given out. -/
theorem turns_lawful (claimed : Claimed) (requests : List Request) :
    (claimed.turns requests).map Turn.request = requests ∧
      (∀ t ∈ (claimed.turns requests).head?, t.before = claimed) ∧
      (claimed.turns requests).IsChain (fun t t' => t'.before = t.after) ∧
      (∀ t ∈ claimed.turns requests, t.Lawful) ∧
      (∀ t ∈ claimed.turns requests, t.request.allocates →
        ∀ name, t.outcome = .ok name → name ∉ claimed) ∧
      (claimed.turns requests).Pairwise fun earlier later =>
        later.request.allocates → ∀ name, later.outcome = .ok name →
          earlier.outcome ≠ .ok name := by
  refine ⟨map_request_turns claimed requests, ?_, isChain_turns claimed requests,
    fun t => lawful_of_mem_turns, ?_, ?_⟩
  · cases requests with
    | nil => exact nofun
    | cons request rest =>
      rintro t ⟨⟩
      exact turn_before claimed request
  · intro t ht hallocates name hname hclaimed
    exact ((lawful_of_mem_turns ht).fresh hallocates name hname).1
      (mem_before_of_mem_turns hclaimed ht)
  · refine (pairwise_turns claimed requests).imp_of_mem ?_
    intro earlier later _ hlater hbefore hallocates name hname hearlier
    exact ((lawful_of_mem_turns hlater).fresh hallocates name hname).1 (hbefore name hearlier)

end Claimed
end ToolBindings.Name
