import ToolBindings.Proofs.Command.Survival

/-!
# What a discovery changes

What every visit keeps true of the files a walk keeps true (`files_eachServer`), and pruning that is
only tried out removes nothing (`files_prune_of_dryRun`). So a dry run leaves all files alone, however
it ends (`files_discover_of_dryRun`).
-/

namespace ToolBindings.CommandRun

variable {visit : Server → Workspace → Except Fault Unit × Workspace} {P : FileTree → Prop}
  {servers : List Server} {w : Workspace}

/-- An invariant of the visits is one of the walk. -/
theorem files_eachServer
    (hvisit : ∀ server ∈ servers, ∀ w, P w.files → P (visit server w).2.files)
    (complaint : String → Failure → Notice) (failFast : Bool) (hw : P w.files) :
    P (eachServer visit complaint failFast servers w).2.files := by
  -- by the recursion of the walk; a failure is said, which is nothing to the files
  have hnext {server : Server} {rest : List Server} {w after : Workspace} {result : Except Fault Unit}
      (hvisit : ∀ other ∈ server :: rest, ∀ w, P w.files → P (visit other w).2.files)
      (hdone : visit server w = (result, after)) (hw : P w.files) : P after.files := by
    have hafter := hvisit server (.head _) w hw
    rwa [hdone] at hafter
  fun_induction eachServer visit complaint failFast servers w with
  | case1 => exact hw
  | case2 server rest w after hdone ih =>
    exact ih (fun other hother => hvisit other (.tail _ hother)) (hnext hvisit hdone hw)
  | case3 server rest w crash after hcrash => exact hnext hvisit hcrash hw
  | case4 server rest w cause after hfailed said hfast =>
    have hafter := hnext hvisit hfailed hw
    exact hafter
  | case5 server rest w cause after hfailed said hgoesOn last hrest ih =>
    have hafter := hnext hvisit hfailed hw
    have hothers := ih (fun other hother => hvisit other (.tail _ hother)) hafter
    rwa [hrest] at hothers
  | case6 server rest w cause after hfailed said hgoesOn hrest ih =>
    have hafter := hnext hvisit hfailed hw
    exact ih (fun other hother => hvisit other (.tail _ hother)) hafter

theorem files_pruneManifest_of_dryRun (path : Path) (w : Workspace) :
    (pruneManifest true path w).2.files = w.files := by
  rw [pruneManifest]
  rcases w.files.isFile path with e | found
  · rfl
  · cases found <;> rfl

theorem files_prune_of_dryRun (selected servers : List Server) (w : Workspace) :
    (prune true selected servers w).2.files = w.files := by
  fun_induction prune true selected servers w with
  | case1 => rfl
  | case2 server rest w hnone ih => exact ih
  | case3 server rest w path hpath hselected ih => exact ih
  | case4 server rest w path hpath hunselected between hpruned ih =>
    have hfirst := files_pruneManifest_of_dryRun (.ofString path) w
    rw [hpruned] at hfirst
    exact ih.trans hfirst
  | case5 server rest w path hpath hunselected crash between hcrash =>
    have hfirst := files_pruneManifest_of_dryRun (.ofString path) w
    rwa [hcrash] at hfirst

theorem files_afterDiscovery_of_dryRun (run : CommandRun) (prune failFast : Bool)
    (selected : List Server) (visits : Visits) (w : Workspace) :
    (run.afterDiscovery ⟨true, prune, failFast⟩ selected visits w).2.files = w.files := by
  have hpruned := files_prune_of_dryRun selected
    (run.project.settings.allServers.toOption.getD []) w
  rw [afterDiscovery]
  split
  · dsimp only
    split
    · rename_i hdone
      rwa [hdone] at hpruned
    · rename_i hcrash
      rwa [hcrash] at hpruned
  · rfl

/-- Trying out a discovery leaves all files alone, whichever servers are wanted and however it
ends. -/
theorem files_discover_of_dryRun (run : CommandRun) (wanted : List String) (prune failFast : Bool)
    (w : Workspace) : (run.discover wanted ⟨true, prune, failFast⟩ w).2.files = w.files := by
  rw [discover, withServers]
  rcases run.project.settings.selectServers wanted with fault | servers
  · cases fault <;> rfl
  · cases servers with
    | nil => rfl
    | cons first rest =>
      have hwalk : (eachServer (run.discoverServer true) .discoverFailed failFast (first :: rest)
          w).2.files = w.files :=
        files_eachServer (P := (· = w.files))
          (fun server _ between hbetween =>
            ((run.files_discoverServer true server between).2 rfl).trans hbetween) _ _ rfl
      dsimp only
      split
      · rename_i hcrash
        rwa [hcrash] at hwalk
      · rename_i visits after hvisits
        rw [hvisits] at hwalk
        exact (files_afterDiscovery_of_dryRun ..).trans hwalk

end ToolBindings.CommandRun
