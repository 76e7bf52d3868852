import ToolBindings.Command.Sync
import ToolBindings.Proofs.Command.Changes
import ToolBindings.Proofs.Command.Discovering

/-!
# Dry runs

A dry run leaves all files alone, whichever of the commands is tried out, with whichever choices, and
however it ends (`files_of_dryRun`).
-/

namespace ToolBindings.CommandRun

theorem files_generate_of_dryRun (run : CommandRun) (wanted : List String)
    {options : GenerateOptions} (hdry : options.dryRun = true) (w : Workspace) :
    (run.generate wanted options w).2.files = w.files := by
  have hnot : options.dryRun ≠ false := by simp [hdry]
  cases hselect : run.project.settings.selectServers wanted with
  | error fault => exact files_generate_of_error hselect
  | ok servers =>
    exact (changes_generate hselect options w).eq_of_none (fun p hp => hnot hp.1)
      fun p hp => hnot hp.1

theorem files_sync_of_dryRun (run : CommandRun) (wanted : List String) {options : SyncOptions}
    (hdry : options.dryRun = true) (w : Workspace) :
    (run.sync wanted options w).2.files = w.files := by
  have hdiscover : (run.discover wanted options.discover w).2.files = w.files := by
    rw [SyncOptions.discover, hdry]
    exact files_discover_of_dryRun run wanted options.prune options.failFast w
  rw [sync]
  -- the generation, if there is one, starts from what the discovery has left
  rcases hstep : run.discover wanted options.discover w with ⟨crash | status, between⟩
  · rwa [hstep] at hdiscover
  · rw [hstep] at hdiscover
    cases status with
    | success => exact (files_generate_of_dryRun run wanted hdry between).trans hdiscover
    | failure => exact hdiscover

/-- A dry run leaves the whole tree as it was. -/
theorem files_of_dryRun (run : CommandRun) (wanted : List String) (w : Workspace)
    (prune failFast clean failOnCollision : Bool) :
    (run.discover wanted ⟨true, prune, failFast⟩ w).2.files = w.files ∧
      (run.generate wanted ⟨true, clean, failOnCollision⟩ w).2.files = w.files ∧
      (run.sync wanted ⟨true, prune, failFast, clean, failOnCollision⟩ w).2.files = w.files :=
  ⟨files_discover_of_dryRun run wanted prune failFast w, files_generate_of_dryRun run wanted rfl w,
    files_sync_of_dryRun run wanted rfl w⟩

end ToolBindings.CommandRun
