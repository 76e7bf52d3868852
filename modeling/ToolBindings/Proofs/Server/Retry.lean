import ToolBindings.Server.Retry

/-!
# Tries of a retry policy

One try at a time: the last one decides, and so does one that is no transient fault; after any other
the tries go on from what is left after the note and the pause.
-/

namespace ToolBindings.RetryPolicy

variable {σ ε α : Type} {policy : RetryPolicy} {actions : Actions σ ε}
  {operation : σ → Except ε α × σ} {s s' : σ}

/-- The last try decides. -/
theorem runFrom_last (attempt pause : Nat) :
    policy.runFrom actions operation 0 attempt pause s = operation s := by
  rw [runFrom]
  rcases operation s with ⟨fault | value, s'⟩ <;> rfl

/-- A try that is no transient fault decides. -/
theorem runFrom_settled (more attempt pause : Nat)
    (h : ∀ fault, (operation s).1 = .error fault → actions.isTransient fault = false) :
    policy.runFrom actions operation more attempt pause s = operation s := by
  cases more with
  | zero => exact runFrom_last attempt pause
  | succ more =>
    rw [runFrom]
    rcases htry : operation s with ⟨fault | value, s'⟩
    · have hfault : actions.isTransient fault = false := h fault (by rw [htry])
      simp [hfault]
    · rfl

/-- After a transient fault another try is made, if there is one left. -/
theorem runFrom_again (more attempt pause : Nat) {fault : ε} (htry : operation s = (.error fault, s'))
    (h : actions.isTransient fault = true) :
    policy.runFrom actions operation (more + 1) attempt pause s
      = policy.runFrom actions operation more (attempt + 1) (policy.nextPause pause)
          (if 0 < pause then actions.pause pause (actions.warn attempt fault s')
            else actions.warn attempt fault s') := by
  rw [runFrom, htry]
  simp only [h, if_true]

/-- A value that a run comes to is that of one of its tries. -/
theorem exists_try_of_runFrom {more attempt pause : Nat} {value : α}
    (h : policy.runFrom actions operation more attempt pause s = (.ok value, s')) :
    ∃ before, operation before = (.ok value, s') := by
  induction more generalizing attempt pause s with
  | zero =>
    rw [runFrom_last] at h
    exact ⟨s, h⟩
  | succ more ih =>
    rw [runFrom] at h
    split at h
    · rename_i htry
      exact ⟨s, htry.trans h⟩
    · dsimp only at h
      split at h
      · exact ih h
      · cases h

end ToolBindings.RetryPolicy
