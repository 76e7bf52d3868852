import ToolBindings.Proofs.Command.Generating
import ToolBindings.Proofs.FileTree.Changes

/-!
# What a generation changes

However a generation ends, it has written to paths of its plan alone and removed nothing but its
clean targets (`changes_generate`), and a dry run has changed nothing.
-/

namespace ToolBindings.CommandRun

variable {run : CommandRun} {options : GenerateOptions} {servers : List Server} {w : Workspace}
variable {tag : String} {written removed : Path → Prop}

/-! ## Cleaning -/

theorem changes_cleanPath (dryRun : Bool) (path : Path) (w : Workspace) :
    FileTree.Changes tag written (fun p => dryRun = false ∧ p = path) w.files
      (cleanPath dryRun path w).2.files := by
  rw [cleanPath]
  split
  · exact .refl _
  · exact .refl _
  · split
    · exact .refl _
    · rename_i hdry
      have hpath : dryRun = false ∧ path = path := ⟨Bool.eq_false_iff.2 hdry, rfl⟩
      split
      · exact .refl _
      · rename_i files hremoved
        rw [removeAny] at hremoved
        split at hremoved
        · cases hremoved
        · exact .removeTree hpath hremoved (.refl _)
        · exact .removeFile hpath hremoved (.refl _)

theorem changes_cleanPaths (dryRun : Bool) (targets : List Path) (w : Workspace) :
    FileTree.Changes tag written (fun p => dryRun = false ∧ p ∈ targets) w.files
      (cleanPaths dryRun targets w).2.files := by
  induction targets generalizing w with
  | nil => exact .refl _
  | cons path rest ih =>
    have hfirst : FileTree.Changes tag written (fun p => dryRun = false ∧ p ∈ path :: rest) w.files
        (cleanPath dryRun path w).2.files :=
      (changes_cleanPath dryRun path w).mono (fun _ hp => hp)
        fun p hp => ⟨hp.1, hp.2 ▸ List.mem_cons_self⟩
    rw [cleanPaths]
    rcases hclean : cleanPath dryRun path w with ⟨crash | done, between⟩
    · rw [hclean] at hfirst
      exact hfirst
    · rw [hclean] at hfirst
      exact hfirst.trans ((ih between).mono (fun _ hp => hp)
        fun p hp => ⟨hp.1, List.mem_cons_of_mem path hp.2⟩)

/-! ## Writing -/

/-- A planned file is written as a whole or not at all. -/
theorem files_writePlanned (run : CommandRun) (dryRun : Bool) (file : PlannedFile) (w : Workspace) :
    (run.writePlanned dryRun file w).2.files = w.files ∨ dryRun = false ∧
      ∃ text, (run.writePlanned dryRun file w).2.files
        = (w.files.writeAtomic run.tag file.path text).1 := by
  cases file with
  | module path name source =>
    rw [writePlanned]
    split
    · exact Or.inl rfl
    · rename_i hdry
      refine Or.inr ⟨Bool.eq_false_iff.2 hdry, source, ?_⟩
      split
      · rename_i hwritten
        rw [PlannedFile.path, hwritten]
        rfl
      · rename_i hwritten
        rw [PlannedFile.path, hwritten]
  | marker directory =>
    rw [writePlanned]
    split
    · exact Or.inl rfl
    · rename_i hdry
      split
      · exact Or.inl rfl
      · exact Or.inl rfl
      · refine Or.inr ⟨Bool.eq_false_iff.2 hdry, markerText, ?_⟩
        split <;>
        · rename_i hwritten
          rw [PlannedFile.path, hwritten]

theorem changes_writePlanned (run : CommandRun) (dryRun : Bool) (file : PlannedFile)
    (w : Workspace) :
    FileTree.Changes run.tag (fun p => dryRun = false ∧ p = file.path) removed w.files
      (run.writePlanned dryRun file w).2.files := by
  rcases run.files_writePlanned dryRun file w with hsame | ⟨hdry, text, hwritten⟩
  · rw [hsame]
    exact .refl _
  · rw [hwritten]
    exact .write text ⟨hdry, rfl⟩ (.refl _)

theorem changes_writeAll (run : CommandRun) (dryRun : Bool) (files : List PlannedFile)
    (w : Workspace) :
    FileTree.Changes run.tag (fun p => dryRun = false ∧ ∃ f ∈ files, p = f.path) removed w.files
      (run.writeAll dryRun files w).2.files := by
  induction files generalizing w with
  | nil => exact .refl _
  | cons file rest ih =>
    have hfirst : FileTree.Changes run.tag
        (fun p => dryRun = false ∧ ∃ f ∈ file :: rest, p = f.path) removed w.files
        (run.writePlanned dryRun file w).2.files :=
      (changes_writePlanned run dryRun file w).mono
        (fun p hp => ⟨hp.1, file, List.mem_cons_self, hp.2⟩) fun _ hp => hp
    rw [writeAll]
    rcases hwrite : run.writePlanned dryRun file w with ⟨crash | done, between⟩
    · rw [hwrite] at hfirst
      exact hfirst
    · rw [hwrite] at hfirst
      refine hfirst.trans ((ih between).mono (fun p hp => ?_) fun _ hp => hp)
      obtain ⟨hdry, f, hf, hpath⟩ := hp
      exact ⟨hdry, f, List.mem_cons_of_mem file hf, hpath⟩

/-! ## The command -/

theorem files_reportingObstacles (step : Step ExitStatus) (w : Workspace) :
    (reportingObstacles step w).2.files = (step w).2.files := by
  rw [reportingObstacles]
  split
  · rename_i hstep
    rw [hstep]
  · rename_i hstep
    rw [hstep]
    rfl
  · rfl

theorem files_carryOut (dryRun failed : Bool) (plan : Plan) (w : Workspace) :
    (run.carryOut dryRun failed plan w).2.files = (run.writeAll dryRun plan.files w).2.files := by
  rw [carryOut]
  split
  · rename_i hwrite
    rw [hwrite]
  · rename_i hwrite
    rw [hwrite]
    split <;> rfl

/-- The paths that a generation for servers may write to. -/
def Writes (run : CommandRun) (options : GenerateOptions) (servers : List Server) (w : Workspace)
    (p : Path) : Prop :=
  options.dryRun = false ∧ ∃ f ∈ (run.plan options servers w).files, p = f.path

/-- The paths that a generation for servers may remove things at. -/
def Removes (run : CommandRun) (options : GenerateOptions) (servers : List Server) (p : Path) :
    Prop :=
  options.dryRun = false ∧ options.clean = true ∧
    p ∈ cleanTargets run.project.settings.generated servers

theorem changes_cleaned (run : CommandRun) (options : GenerateOptions) (servers : List Server)
    (w : Workspace) : FileTree.Changes tag written (run.Removes options servers) w.files
      (run.cleaned options servers w).files := by
  refine (changes_cleanPaths options.dryRun _ w).mono (fun _ hp => hp) fun p hp => ?_
  obtain ⟨hdry, htarget⟩ := hp
  split at htarget
  · rename_i hclean
    exact ⟨hdry, hclean, htarget⟩
  · cases htarget

/-- A generation for servers writes and removes what it may, however it ends. -/
theorem changes_generateFor (run : CommandRun) (options : GenerateOptions) (servers : List Server)
    (w : Workspace) :
    FileTree.Changes run.tag (run.Writes options servers w) (run.Removes options servers) w.files
      (run.generateFor options servers w).2.files := by
  have hcleaned : FileTree.Changes run.tag (run.Writes options servers w)
      (run.Removes options servers) w.files (run.cleaned options servers w).files :=
    changes_cleaned run options servers w
  rw [generateFor]
  dsimp only
  -- the clean targets are removed, manifests are read, and then the plan is written
  rcases hclean : cleanPaths options.dryRun
    (if options.clean then cleanTargets run.project.settings.generated servers else []) w with
      ⟨crash | done, between⟩
  · rw [cleaned, hclean] at hcleaned
    exact hcleaned
  · have hbetween : run.cleaned options servers w = between := by rw [cleaned, hclean]
    rw [hbetween] at hcleaned
    dsimp only
    rcases hload : loadServers servers between with ⟨crash | loaded, read⟩
    · have hfiles := files_loadServers servers between
      rw [hload] at hfiles
      dsimp only at hfiles ⊢
      rwa [hfiles]
    · obtain ⟨hdefinitions, hfiles⟩ := loadServers_ok hload
      dsimp only
      rw [files_carryOut]
      rw [← hfiles] at hcleaned
      refine hcleaned.trans ((changes_writeAll run options.dryRun _ read).mono (fun p hp => ?_)
        fun _ hp => hp)
      rw [hdefinitions, ← hbetween] at hp
      exact hp

/-- A generation for some servers, as it is carried out. -/
theorem generate_eq {wanted : List String}
    (hselect : run.project.settings.selectServers wanted = .ok servers) (hsome : servers ≠ [])
    (options : GenerateOptions) :
    run.generate wanted options = reportingObstacles (run.generateFor options servers) := by
  funext w
  rw [generate, withServers, hselect]
  cases servers with
  | nil => exact absurd rfl hsome
  | cons first rest => rfl

/-- A generation that does not clean carries out the plan for what it loads. -/
theorem generate_of_loadServers {wanted : List String} {options : GenerateOptions} {loaded : Loaded}
    {w' : Workspace} (hselect : run.project.settings.selectServers wanted = .ok servers)
    (hsome : servers ≠ []) (hkeep : options.clean = false)
    (h : loadServers servers w = (.ok loaded, w')) :
    run.generate wanted options w
      = reportingObstacles (fun _ => run.carryOut options.dryRun loaded.failed (Plan.ofDefinitions
          run.project.settings.generated (!options.failOnCollision) loaded.definitions) w') w := by
  have hfor : run.generateFor options servers w
      = run.carryOut options.dryRun loaded.failed (Plan.ofDefinitions
          run.project.settings.generated (!options.failOnCollision) loaded.definitions) w' := by
    rw [generateFor, hkeep]
    simp only [Bool.false_eq_true, if_false, cleanPaths, h]
  rw [generate_eq hselect hsome, reportingObstacles, reportingObstacles, hfor]

theorem changes_generate {wanted : List String}
    (hselect : run.project.settings.selectServers wanted = .ok servers) (options : GenerateOptions)
    (w : Workspace) :
    FileTree.Changes run.tag (run.Writes options servers w) (run.Removes options servers) w.files
      (run.generate wanted options w).2.files := by
  by_cases hsome : servers = []
  · rw [generate, withServers, hselect, hsome]
    exact .refl _
  · rw [generate_eq hselect hsome, files_reportingObstacles]
    exact changes_generateFor run options servers w

/-- A generation whose servers cannot be selected changes nothing. -/
theorem files_generate_of_error {wanted : List String} {fault : Fault}
    (hselect : run.project.settings.selectServers wanted = .error fault) :
    (run.generate wanted options w).2.files = w.files := by
  rw [generate, withServers, hselect]
  cases fault <;> rfl

end ToolBindings.CommandRun
