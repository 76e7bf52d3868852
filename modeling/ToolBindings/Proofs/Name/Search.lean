import Mathlib.Order.Bounds.Basic
import ToolBindings.Proofs.Name.Allocation

/-!
# The search for a free counter

A search that sets itself no limit looks at the counters from 2 on, one after the other, for as long
as their names are taken. `Tried` holds of the counters that it looks at. All that it has passed are
taken, names of different counters differ, and only finitely many are claimed: so the search ends, and
what it ends at is the least counter whose name is free (`suffixed_isLeast`).
-/

namespace ToolBindings.Name.Claimed

/-- The counters that a search without a limit looks at: 2, and behind every counter whose name is
taken the next one. -/
inductive Tried (claimed : Claimed) (stem : String) : Nat → Prop where
  | first : Tried claimed stem 2
  | next {counter : Nat} (tried : Tried claimed stem counter)
      (taken : counted stem counter ∈ claimed) : Tried claimed stem (counter + 1)

variable {claimed : Claimed} {stem : String} {counter k : Nat}

namespace Tried

theorem two_le (h : claimed.Tried stem counter) : 2 ≤ counter := by
  induction h with
  | first => exact Nat.le_refl 2
  | next _ _ ih => omega

/-- Every counter that was passed is taken. -/
theorem taken_of_lt (h : claimed.Tried stem counter) (hk : 2 ≤ k) (hlt : k < counter) :
    counted stem k ∈ claimed := by
  induction h with
  | first => omega
  | @next last _ taken ih =>
    -- either it was passed before, or it is the one that this step passes
    by_cases hlast : k = last
    · rw [hlast]
      exact taken
    · apply ih
      omega

/-- Counters whose names are all taken are passed. -/
theorem of_taken (hle : 2 ≤ counter) (h : ∀ k, 2 ≤ k → k < counter → counted stem k ∈ claimed) :
    claimed.Tried stem counter := by
  induction counter, hle using Nat.le_induction with
  | base => exact first
  | succ last hlast ih =>
    have htried : claimed.Tried stem last := by
      apply ih
      intro k hk hlt
      exact h k hk (by omega)
    exact htried.next (h last hlast (by omega))

/-- No counter beyond the number of names plus 2 is looked at. -/
theorem le_size (h : claimed.Tried stem counter) : counter ≤ claimed.size + 2 := by
  have hle := h.two_le
  have hpassed : ∀ k, 2 ≤ k → k < 2 + (counter - 2) → counted stem k ∈ claimed := by
    intro k hk hlt
    apply h.taken_of_lt hk
    omega
  have hcount := le_size_of_taken 2 (counter - 2) hpassed
  omega

end Tried

/-- The counters that are looked at are those up to the least with a free name. -/
theorem tried_iff_of_isLeast (h : IsLeast {k | 2 ≤ k ∧ counted stem k ∉ claimed} counter) :
    claimed.Tried stem k ↔ 2 ≤ k ∧ k ≤ counter := by
  constructor
  · intro htried
    refine ⟨htried.two_le, ?_⟩
    by_contra hlt
    exact h.1.2 (htried.taken_of_lt h.1.1 (by omega))
  · rintro ⟨hk, hle⟩
    apply Tried.of_taken hk
    intro j hj hlt
    by_contra hfree
    have hleast : counter ≤ j := h.2 ⟨hj, hfree⟩
    omega

/-- Whatever names are claimed, the search for a counter ends: it looks at the counters from 2 up to
the least whose name is free, which is at most the number of names plus 2. A suffixed name has
this counter behind the mark, or the mark alone if that is free. -/
theorem suffixed_isLeast (claimed : Claimed) (base mark : String) :
    ∃ counter,
      IsLeast {k | 2 ≤ k ∧ base ++ mark ++ String.ofList (Text.decimal k) ∉ claimed} counter ∧
      (∀ k, claimed.Tried (base ++ mark) k ↔ 2 ≤ k ∧ k ≤ counter) ∧
      counter ≤ claimed.size + 2 ∧
      claimed.suffixed base mark =
        if base ++ mark ∈ claimed then base ++ mark ++ String.ofList (Text.decimal counter)
        else base ++ mark := by
  have hleast := isLeast_freeCounter claimed (base ++ mark) 2
  have htried (k : Nat) := tried_iff_of_isLeast (k := k) hleast
  refine ⟨_, hleast, htried, ?_, rfl⟩
  -- the search looks at the counter that it ends at, so the bound on all of them holds of it
  have hend := (htried _).2 ⟨hleast.1.1, Nat.le_refl _⟩
  exact hend.le_size

/-- The mark and the first counter behind it are taken. -/
example : suffixed ⟨["ListTool", "ListTool5d", "ListTool5d2"], by decide⟩ "ListTool" "5d"
    = "ListTool5d3" := by
  decide

end ToolBindings.Name.Claimed
