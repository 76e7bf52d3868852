import ToolBindings.Proofs.Command.Rehearsal
import ToolBindings.Proofs.Command.Strict

/-!
# Collisions

A generation without suffixes that meets no obstacle ends with the report of a collision exactly if
two of the definitions that it loads share a base name or two of their servers do; where it does not
collide it is the generation with suffixes (`strict_generate`).
-/

namespace ToolBindings

/-! ## Selection -/

/-- No collision is met while servers are selected. -/
theorem Settings.selectServers_ne_collision (settings : Settings) (wanted : List String)
    (collision : Name.Collision) :
    settings.selectServers wanted ≠ .error (.failure (.configuration (.collision collision))) := by
  intro h
  rw [selectServers] at h
  cases hall : settings.allServers with
  | ok servers =>
    rw [hall] at h
    dsimp only [bind, Except.bind] at h
    split at h
    · cases h
    · split at h <;> cases h
  | error fault =>
    rw [hall] at h
    cases h
    obtain ⟨-, ⟨slug, entry⟩, -, -, -, hentry⟩ := filterMapM_eq_error.1 hall
    dsimp only at hentry
    unfold serverOf? at hentry
    split at hentry
    · split at hentry
      · split at hentry <;> cases hentry
      · cases hentry
    · cases hentry

/-! ## Crashes and notices -/

/-- Nothing crashes while a manifest is read but what is asked of the files. -/
theorem ManifestFile.crash_read {files : FileTree} {path : Path} {crash : Crash}
    (h : read files path = .error (.crash crash)) : ∃ e, crash = .file e := by
  rw [read] at h
  split at h
  · cases h
    exact ⟨_, rfl⟩
  · cases h
  · rename_i octets _
    cases hparse : parse path octets <;>
    · rw [hparse] at h
      cases h

/-- The collision that is reported, if one is. -/
def Notice.collision? : Notice → Option Name.Collision
  | .failed (.configuration (.collision collision)) => some collision
  | _ => none

theorem Notice.collision?_eq_some {notice : Notice} {collision : Name.Collision} :
    notice.collision? = some collision ↔
      notice = .failed (.configuration (.collision collision)) := by
  rw [collision?.eq_def]
  split
  · simp
  · rename_i hother
    exact iff_of_false nofun fun hnotice => hother _ hnotice

namespace CommandRun

variable {run : CommandRun} {options : GenerateOptions} {servers : List Server}
  {server : Server} {wanted : List String} {w w' : Workspace} {crash : Crash}

/-! ## Loading -/

theorem crash_loadServer (h : loadServer server w = (.error crash, w')) :
    ∃ e, crash = .file e := by
  rw [loadServer] at h
  split at h
  · cases h
  · dsimp only at h
    split at h
    · rename_i e _
      cases h
      exact ⟨e, rfl⟩
    · cases h
    · rw [loadManifest] at h
      split at h
      · rename_i hread
        cases h
        exact ManifestFile.crash_read hread
      · cases h
      · split at h <;> cases h

theorem crash_loadServers (h : loadServers servers w = (.error crash, w')) :
    ∃ e, crash = .file e := by
  induction servers generalizing w with
  | nil => cases h
  | cons server rest ih =>
    rw [loadServers] at h
    split at h
    · rename_i hfirst
      cases h
      exact crash_loadServer hfirst
    · split at h
      · rename_i hrest
        cases h
        exact ih hrest
      · cases h

/-- The definitions that a generation loads: those in the manifests of the wanted servers, as these
are after cleaning. -/
def definitions (run : CommandRun) (wanted : List String) (options : GenerateOptions)
    (w : Workspace) : List Definition :=
  (run.selected wanted).flatMap
    (·.definitions (run.cleaned options (run.selected wanted) w).files)

/-! ## Runs without an obstacle -/

/-- How a generation ends once its plan is written: with the collision of the plan, or with the number
of its modules. -/
def concluded (plan : Plan) (failed : Bool) (w : Workspace) : Except Crash ExitStatus × Workspace :=
  match plan.collision with
  | some collision => (.ok .failure, w.say (.failed (.configuration (.collision collision))))
  | none => (.ok (.ofFailed failed), w.say (.generatedCount plan.moduleCount))

theorem carryOut_of_written {dryRun failed : Bool} {plan : Plan}
    (h : run.writeAll dryRun plan.files w = (.ok (), w')) :
    run.carryOut dryRun failed plan w = concluded plan failed w' := by
  rw [carryOut, h]
  rfl

/-- The clean targets of a generation. -/
def targets (run : CommandRun) (options : GenerateOptions) (servers : List Server) : List Path :=
  if options.clean then cleanTargets run.project.settings.generated servers else []

section

variable (h : ∀ e, (run.generateFor options servers w).1 ≠ .error (.file e))
include h

/-- A generation that meets no obstacle gets through cleaning. -/
theorem cleanPaths_of_unobstructed :
    cleanPaths options.dryRun (run.targets options servers) w
      = (.ok (), run.cleaned options servers w) := by
  rcases hclean : cleanPaths options.dryRun (run.targets options servers) w with
    ⟨crash | done, between⟩
  · obtain ⟨e, rfl⟩ := crash_cleanPaths hclean
    refine absurd ?_ (h e)
    rw [targets] at hclean
    rw [generateFor]
    simp only [hclean]
  · rw [cleaned, ← targets, hclean]

/-- A generation that meets no obstacle writes its plan and concludes. -/
theorem generateFor_of_unobstructed :
    ∃ (failed : Bool) (read written : Workspace),
      read.files = (run.cleaned options servers w).files ∧
      run.writeAll options.dryRun (run.plan options servers w).files read = (.ok (), written) ∧
      run.generateFor options servers w
        = concluded (run.plan options servers w) failed written := by
  have hclean := cleanPaths_of_unobstructed h
  rw [targets] at hclean
  rw [generateFor] at h ⊢
  simp only [hclean] at h ⊢
  -- loading and writing crash over files alone, and then the whole would have met an obstacle
  rcases hload : loadServers servers (run.cleaned options servers w) with ⟨crash | loaded, read⟩
  · obtain ⟨e, rfl⟩ := crash_loadServers hload
    rw [hload] at h
    exact absurd rfl (h e)
  · obtain ⟨hdefinitions, hfiles⟩ := loadServers_ok hload
    rw [hload] at h
    dsimp only at h ⊢
    rw [hdefinitions, ← plan] at h ⊢
    rcases hwrite : run.writeAll options.dryRun (run.plan options servers w).files read with
      ⟨crash | done, written⟩
    · obtain ⟨e, rfl⟩ := crash_writeAll hwrite
      rw [carryOut, hwrite] at h
      exact absurd rfl (h e)
    · exact ⟨loaded.failed, read, written, hfiles, hwrite, carryOut_of_written hwrite⟩

end

/-! ## Reports -/

/-- A run ends with the report of a collision. -/
structure Reports (collision : Name.Collision)
    (outcome : Except Crash ExitStatus × Workspace) : Prop where
  failed : outcome.1 = .ok .failure
  said : outcome.2.notices.getLast? = some (.failed (.configuration (.collision collision)))

instance (collision : Name.Collision) (outcome : Except Crash ExitStatus × Workspace) :
    Decidable (Reports collision outcome) :=
  decidable_of_iff (outcome.1 = .ok .failure ∧
      outcome.2.notices.getLast?.bind Notice.collision? = some collision) <| by
    simp only [Option.bind_eq_some_iff, Notice.collision?_eq_some]
    exact ⟨fun ⟨hfailed, _, hlast, hnotice⟩ => ⟨hfailed, hnotice ▸ hlast⟩,
      fun h => ⟨h.failed, _, h.said, rfl⟩⟩

/-- A run ends with the report of an obstacle to a file operation, or crashes for a NUL in the path of
a file. -/
def Obstructed (outcome : Except Crash ExitStatus × Workspace) : Prop :=
  outcome.1 = .error (.file .embeddedNul) ∨
    ∃ e, outcome.2.notices.getLast? = some (.notGenerated e)

variable {collision : Name.Collision}

theorem Reports.unobstructed {outcome : Except Crash ExitStatus × Workspace}
    (h : Reports collision outcome) : ¬Obstructed outcome := by
  rintro (hnul | ⟨e, hmet⟩)
  · rw [h.failed] at hnul
    cases hnul
  · rw [h.said] at hmet
    cases hmet

theorem reports_concluded_iff (plan : Plan) (failed : Bool) (w : Workspace) :
    Reports collision (concluded plan failed w) ↔ plan.collision = some collision := by
  rw [concluded]
  cases plan.collision with
  | none =>
    refine iff_of_false (fun h => ?_) nofun
    have hsaid := h.said
    simp [Workspace.say] at hsaid
  | some other =>
    refine ⟨fun h => ?_, ?_⟩
    · have hsaid := h.said
      simpa [Workspace.say] using hsaid
    · rintro ⟨⟩
      exact ⟨rfl, by simp [Workspace.say]⟩

/-- What comes of the wanted servers depends on what is done with them. -/
theorem withServers_congr {purpose : String} {act act' : List Server → Step ExitStatus}
    (h : act (run.selected wanted) w = act' (run.selected wanted) w) :
    run.withServers wanted purpose act w = run.withServers wanted purpose act' w := by
  rw [selected] at h
  rw [withServers, withServers]
  cases hselect : run.project.settings.selectServers wanted with
  | error fault => cases fault <;> rfl
  | ok servers =>
    rw [hselect] at h
    cases servers with
    | nil => rfl
    | cons first rest => exact h

/-- Without a server there is no collision to report. -/
theorem not_reports_of_selected (h : run.selected wanted = []) :
    ¬Reports collision (run.generate wanted options w) := by
  intro hreports
  rw [generate, withServers] at hreports
  rw [selected] at h
  cases hselect : run.project.settings.selectServers wanted with
  | error fault =>
    rw [hselect] at hreports
    cases fault with
    | crash crash => cases hreports.failed
    | failure cause =>
      obtain ⟨-, hsaid⟩ := hreports
      have hcause : cause = .configuration (.collision collision) := by
        simpa [Workspace.say] using hsaid
      exact Settings.selectServers_ne_collision _ _ _ (hcause ▸ hselect)
  | ok servers =>
    rw [hselect] at h hreports
    obtain rfl : servers = [] := h
    cases hreports.failed

theorem generate_selected (h : run.selected wanted ≠ []) (options : GenerateOptions) :
    run.generate wanted options
      = reportingObstacles (run.generateFor options (run.selected wanted)) := by
  rw [selected] at h ⊢
  cases hselect : run.project.settings.selectServers wanted with
  | error fault =>
    rw [hselect] at h
    exact absurd rfl h
  | ok servers =>
    rw [hselect] at h
    exact generate_eq hselect h options

/-- A generation for servers that is not obstructed has met no obstacle. -/
theorem unobstructed_of_generate (h : run.selected wanted ≠ [])
    (hfree : ¬Obstructed (run.generate wanted options w)) :
    run.generate wanted options w = run.generateFor options (run.selected wanted) w ∧
      ∀ e, (run.generateFor options (run.selected wanted) w).1 ≠ .error (.file e) := by
  rw [generate_selected h] at hfree ⊢
  rw [Obstructed, not_or, not_exists] at hfree
  have hmet := unobstructed_of_reportingObstacles hfree.1 hfree.2
  exact ⟨reportingObstacles_of_unobstructed hmet, hmet⟩

/-- A generation for servers reports the collision of its plan, unless it is obstructed. -/
theorem reports_generate_iff (h : run.selected wanted ≠ []) :
    Reports collision (run.generate wanted options w) ↔
      (run.plan options (run.selected wanted) w).collision = some collision ∧
        ¬Obstructed (run.generate wanted options w) := by
  have hreports (hfree : ¬Obstructed (run.generate wanted options w)) :
      Reports collision (run.generate wanted options w) ↔
        (run.plan options (run.selected wanted) w).collision = some collision := by
    obtain ⟨hgenerate, hmet⟩ := unobstructed_of_generate h hfree
    obtain ⟨failed, read, written, -, -, hconcluded⟩ := generateFor_of_unobstructed hmet
    rw [hgenerate, hconcluded, reports_concluded_iff]
  exact ⟨fun hr => ⟨(hreports hr.unobstructed).1 hr, hr.unobstructed⟩,
    fun ⟨hcollision, hfree⟩ => (hreports hfree).2 hcollision⟩

/-! ## Without suffixes -/

/-- A generation for servers whose plan does not collide is the one with suffixes. -/
theorem generateFor_strict {dryRun clean : Bool}
    (h : (run.plan ⟨dryRun, clean, true⟩ servers w).collision = none) :
    run.generateFor ⟨dryRun, clean, true⟩ servers w
      = run.generateFor ⟨dryRun, clean, false⟩ servers w := by
  rw [generateFor, generateFor]
  dsimp only
  rcases hclean : cleanPaths dryRun
    (if clean then cleanTargets run.project.settings.generated servers else []) w with
      ⟨crash | done, between⟩
  · rfl
  · dsimp only
    rcases hload : loadServers servers between with ⟨crash | loaded, read⟩
    · rfl
    · obtain ⟨hdefinitions, -⟩ := loadServers_ok hload
      have hbetween : run.cleaned ⟨dryRun, clean, true⟩ servers w = between := by
        rw [cleaned, hclean]
      rw [plan, hbetween, ← hdefinitions] at h
      dsimp only
      rw [Bool.not_false, ← Plan.ofDefinitions_suffixes h]

/-- A generation without suffixes reports a collision exactly if its definitions collide and nothing
obstructs it; they collide exactly if two of them share a base name or two of their servers do; and
if not, the generation is the one with suffixes, with the same files, words and status. -/
theorem strict_generate (run : CommandRun) (wanted : List String) (dryRun clean : Bool)
    (w : Workspace) :
    (∀ collision, Reports collision (run.generate wanted ⟨dryRun, clean, true⟩ w) ↔
      (∃ files, Plan.Collides run.project.settings.generated
          (run.definitions wanted ⟨dryRun, clean, true⟩ w) collision files) ∧
        ¬Obstructed (run.generate wanted ⟨dryRun, clean, true⟩ w)) ∧
    ((∃ collision files, Plan.Collides run.project.settings.generated
        (run.definitions wanted ⟨dryRun, clean, true⟩ w) collision files) ↔
      Plan.SharesBase (run.definitions wanted ⟨dryRun, clean, true⟩ w)) ∧
    (¬Plan.SharesBase (run.definitions wanted ⟨dryRun, clean, true⟩ w) →
      run.generate wanted ⟨dryRun, clean, true⟩ w
        = run.generate wanted ⟨dryRun, clean, false⟩ w) := by
  have hplan : run.plan ⟨dryRun, clean, true⟩ (run.selected wanted) w
      = .ofDefinitions run.project.settings.generated false
          (run.definitions wanted ⟨dryRun, clean, true⟩ w) := rfl
  refine ⟨fun collision => ?_, Plan.exists_collides_iff _ _, fun hshares => ?_⟩
  · by_cases hsome : run.selected wanted = []
    · refine iff_of_false (not_reports_of_selected hsome) ?_
      rintro ⟨⟨files, hcollides⟩, -⟩
      -- without a server there is no definition that could share a name
      have hshares := (Plan.exists_collides_iff _ _).1 ⟨collision, files, hcollides⟩
      rw [definitions, hsome] at hshares
      simp [Plan.SharesBase] at hshares
    · rw [reports_generate_iff hsome, hplan, Plan.collision_eq_some_iff]
  · refine withServers_congr ?_
    rw [reportingObstacles, reportingObstacles, generateFor_strict]
    rw [hplan]
    exact Plan.collision_of_not_sharesBase hshares

end CommandRun
end ToolBindings
