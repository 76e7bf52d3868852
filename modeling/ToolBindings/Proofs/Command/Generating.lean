import ToolBindings.Proofs.Command.Loading
import ToolBindings.Proofs.Command.Planned
import ToolBindings.Proofs.FileTree.Writing

/-!
# What a generation writes

A generation that succeeds has written its whole plan (`generate_success`), and the modules of tools
and the aggregate stand where they were written (`written_of_generate`): no file that is written
after one of them has its name.
-/

namespace ToolBindings

/-- The text of a planned file. -/
def PlannedFile.text : PlannedFile → String
  | .module _ _ source => source
  | .marker _ => CommandRun.markerText

namespace CommandRun

variable {run : CommandRun} {w w' : Workspace}

/-! ## Planned files -/

/-- A planned file that is written is written as a whole; a marker may be there already. -/
theorem writePlanned_ok {file : PlannedFile} (h : run.writePlanned false file w = (.ok (), w')) :
    w'.files = w.files ∨
      w.files.writeAtomic run.tag file.path file.text = (w'.files, .ok ()) := by
  cases file with
  | module path name source =>
    simp only [writePlanned, Bool.false_eq_true, if_false] at h
    split at h
    · rename_i files hwritten
      cases h
      exact Or.inr hwritten
    · cases h
  | marker directory =>
    simp only [writePlanned, Bool.false_eq_true, if_false] at h
    split at h
    · cases h
    · cases h
      exact Or.inl rfl
    · split at h
      · rename_i files hwritten
        cases h
        exact Or.inr hwritten
      · cases h

theorem writeAtomic_of_module {path : Path} {name source : String}
    (h : run.writePlanned false (.module path name source) w = (.ok (), w')) :
    w.files.writeAtomic run.tag path source = (w'.files, .ok ()) := by
  simp only [writePlanned, Bool.false_eq_true, if_false] at h
  split at h
  · rename_i files hwritten
    cases h
    exact hwritten
  · cases h

/-- Files are written one list after the other. -/
theorem writeAll_append {dryRun : Bool} {before after : List PlannedFile}
    (h : run.writeAll dryRun (before ++ after) w = (.ok (), w')) :
    ∃ between, run.writeAll dryRun before w = (.ok (), between) ∧
      run.writeAll dryRun after between = (.ok (), w') := by
  induction before generalizing w with
  | nil => exact ⟨w, rfl, h⟩
  | cons file before ih =>
    rw [List.cons_append, writeAll] at h
    split at h
    · rename_i first hfile
      obtain ⟨between, hbefore, hafter⟩ := ih h
      refine ⟨between, ?_, hafter⟩
      rw [writeAll, hfile]
      exact hbefore
    · cases h

/-- A list of files that is written begins with the first of them. -/
theorem writeAll_cons {dryRun : Bool} {file : PlannedFile} {after : List PlannedFile}
    (h : run.writeAll dryRun (file :: after) w = (.ok (), w')) :
    ∃ between, run.writePlanned dryRun file w = (.ok (), between) ∧
      run.writeAll dryRun after between = (.ok (), w') := by
  rw [writeAll] at h
  split at h
  · rename_i between hfile
    exact ⟨between, hfile, h⟩
  · cases h

variable {path : Path} {source : String}

/-- Files of other names leave a written text where it is. -/
theorem written_of_written {files : List PlannedFile} (hwritten : w.files.Written path source)
    (h : run.writeAll false files w = (.ok (), w'))
    (hfiles : ∀ f ∈ files, f.path.lastName ≠ path.lastName) : w'.files.Written path source := by
  induction files generalizing w with
  | nil =>
    cases h
    exact hwritten
  | cons file files ih =>
    obtain ⟨between, hfile, hrest⟩ := writeAll_cons h
    refine ih ?_ hrest fun f hf => hfiles f (List.mem_cons_of_mem file hf)
    rcases writePlanned_ok hfile with hsame | hother
    · rwa [hsame]
    · exact hwritten.writeAtomic hother (hfiles file List.mem_cons_self).symm

/-- A module stands where it was written, unless a later file has its name. -/
theorem written_writeAll {before after : List PlannedFile} {name : String}
    (h : run.writeAll false (before ++ .module path name source :: after) w = (.ok (), w'))
    (hafter : ∀ f ∈ after, f.path.lastName ≠ path.lastName) : w'.files.Written path source := by
  obtain ⟨between, -, hrest⟩ := writeAll_append h
  obtain ⟨next, hmodule, hlater⟩ := writeAll_cons hrest
  exact written_of_written (FileTree.written_writeAtomic (writeAtomic_of_module hmodule)) hlater hafter

/-! ## The command -/

/-- The workspace after what a generation for servers replaces has been removed. -/
def cleaned (run : CommandRun) (options : GenerateOptions) (servers : List Server)
    (w : Workspace) : Workspace :=
  let targets := if options.clean then cleanTargets run.project.settings.generated servers else []
  (cleanPaths options.dryRun targets w).2

theorem cleaned_of_keeping (run : CommandRun) {options : GenerateOptions}
    (h : options.clean = false) (servers : List Server) (w : Workspace) :
    run.cleaned options servers w = w := by
  rw [cleaned, h]
  rfl

/-- The descriptors of a generation: of the tools in the manifests of the wanted servers, as these
are after cleaning. -/
def descriptors (run : CommandRun) (wanted : List String) (options : GenerateOptions)
    (w : Workspace) : List Descriptor :=
  match run.project.settings.selectServers wanted with
  | .error _ => []
  | .ok servers =>
    let definitions := servers.flatMap (·.definitions (run.cleaned options servers w).files)
    (Plan.describe run.project.settings.generated (!options.failOnCollision) .empty
      (Plan.ordered definitions)).1

/-- The plan of a generation for servers. -/
def plan (run : CommandRun) (options : GenerateOptions) (servers : List Server) (w : Workspace) :
    Plan :=
  .ofDefinitions run.project.settings.generated (!options.failOnCollision)
    (servers.flatMap (·.definitions (run.cleaned options servers w).files))

variable {wanted : List String} {options : GenerateOptions} {servers : List Server}

/-- A step that ends well has met no obstacle. -/
theorem ok_of_reportingObstacles {step : Step ExitStatus}
    (h : reportingObstacles step w = (.ok .success, w')) : step w = (.ok .success, w') := by
  rw [reportingObstacles] at h
  split at h
  · cases h
  · cases h
  · exact h

theorem carryOut_success {dryRun failed : Bool} {plan : Plan}
    (h : run.carryOut dryRun failed plan w = (.ok .success, w')) :
    plan.collision = none ∧ ∃ written : Workspace,
      run.writeAll dryRun plan.files w = (.ok (), written) ∧ w'.files = written.files := by
  rw [carryOut] at h
  split at h
  · cases h
  · rename_i written hwrite
    split at h
    · cases h
    · rename_i hnone
      rw [Prod.mk.injEq] at h
      exact ⟨hnone, written, hwrite, h.2 ▸ rfl⟩

/-- A generation for some servers that succeeds has no collision in its plan and has written it. -/
theorem generate_success (h : run.generate wanted options w = (.ok .success, w'))
    (hselect : run.project.settings.selectServers wanted = .ok servers) (hsome : servers ≠ []) :
    (run.plan options servers w).collision = none ∧
      ∃ read written : Workspace, read.files = (run.cleaned options servers w).files ∧
        run.writeAll options.dryRun (run.plan options servers w).files read = (.ok (), written) ∧
        w'.files = written.files := by
  rw [generate, withServers, hselect] at h
  cases servers with
  | nil => exact absurd rfl hsome
  | cons first rest =>
    have hfor := ok_of_reportingObstacles h
    rw [generateFor] at hfor
    dsimp only at hfor
    split at hfor
    · cases hfor
    · rename_i between hclean
      split at hfor
      · cases hfor
      · rename_i loaded read hload
        obtain ⟨hdefinitions, hfiles⟩ := loadServers_ok hload
        obtain ⟨hnone, written, hwrite, hlast⟩ := carryOut_success hfor
        have hbetween : run.cleaned options (first :: rest) w = between := by
          rw [cleaned, hclean]
        rw [hdefinitions] at hnone hwrite
        rw [plan, hbetween]
        exact ⟨hnone, read, written, hfiles, hwrite, hlast⟩

/-! ## Descriptors -/

theorem descriptors_eq (hselect : run.project.settings.selectServers wanted = .ok servers) :
    run.descriptors wanted options w
      = (Plan.describe run.project.settings.generated (!options.failOnCollision) .empty
          (Plan.ordered (servers.flatMap
            (·.definitions (run.cleaned options servers w).files)))).1 := by
  rw [descriptors, hselect]

theorem made_of_mem_descriptors {d : Descriptor} (h : d ∈ run.descriptors wanted options w) :
    d.Made run.project.settings.generated := by
  rw [descriptors] at h
  split at h
  · cases h
  · exact (Plan.made_of_mem_describe h).1

theorem nodup_descriptors (run : CommandRun) (wanted : List String) (options : GenerateOptions)
    (w : Workspace) : ((run.descriptors wanted options w).map Descriptor.className).Nodup := by
  rw [descriptors]
  split
  · exact List.nodup_nil
  · exact Plan.nodup_describe _ _

/-- No two descriptors of a generation have the same key. -/
theorem nodup_keys (run : CommandRun) (wanted : List String) (options : GenerateOptions)
    (w : Workspace) : ((run.descriptors wanted options w).map Descriptor.key).Nodup := by
  refine List.Nodup.of_map BindingKey.className ?_
  rw [List.map_map]
  exact nodup_descriptors run wanted options w

/-- Modules of tools stand where they were written, whatever is written after them that is not for a
tool. -/
theorem written_descriptor {g : GeneratedSettings} {descriptors : List Descriptor}
    (hmade : ∀ d ∈ descriptors, d.Made g) (hnodup : (descriptors.map Descriptor.className).Nodup)
    {rest : List PlannedFile}
    (hrest : ∀ f ∈ rest, f.IsOther)
    (h : run.writeAll false (descriptors.map Descriptor.file ++ rest) w = (.ok (), w'))
    {d : Descriptor} (hd : d ∈ descriptors) : w'.files.Written d.path d.source := by
  have hlast {d : Descriptor} (hd : d ∈ descriptors) : d.path.lastName = moduleFile d.className := by
    rw [(hmade d hd).path, GeneratedSettings.classPath, Path.lastName_child]
  obtain ⟨before, after, hsplit⟩ := List.append_of_mem hd
  have hfiles : descriptors.map Descriptor.file ++ rest = before.map Descriptor.file ++
      .module d.path d.module d.source :: (after.map Descriptor.file ++ rest) := by
    rw [hsplit, List.map_append, List.append_assoc]
    rfl
  rw [hfiles] at h
  refine written_writeAll h fun f hf => ?_
  rw [hlast hd]
  rcases List.mem_append.1 hf with hf | hf
  · obtain ⟨other, hother, rfl⟩ := List.mem_map.1 hf
    have hmem : other ∈ descriptors := by
      rw [hsplit]
      exact List.mem_append_right before (List.mem_cons_of_mem d hother)
    rw [hsplit, List.map_append, List.map_cons] at hnodup
    have hne : d.className ≠ other.className := by
      have hcons := (List.nodup_append.1 hnodup).2.1
      rintro heq
      exact (List.nodup_cons.1 hcons).1 (heq ▸ List.mem_map_of_mem hother)
    exact fun hfile => hne (moduleFile_inj ((hlast hmem).symm.trans hfile)).symm
  · exact (hrest f hf).lastName_ne (hmade d hd).named

/-- Descriptors are those of servers that were selected. -/
theorem exists_servers_of_descriptors (hsome : run.descriptors wanted options w ≠ []) :
    ∃ servers, run.project.settings.selectServers wanted = .ok servers ∧ servers ≠ [] := by
  cases hselect : run.project.settings.selectServers wanted with
  | error fault =>
    rw [descriptors, hselect] at hsome
    exact absurd rfl hsome
  | ok servers =>
    refine ⟨servers, rfl, ?_⟩
    rintro rfl
    rw [descriptors_eq hselect, List.flatMap_nil, Plan.ordered, Text.sortedByPair,
      sortBy] at hsome
    exact hsome rfl

/-- The modules of tools and the aggregate stand where a generation that succeeds has written them. -/
theorem written_of_generate (h : run.generate wanted options w = (.ok .success, w'))
    (hdry : options.dryRun = false) (hsome : run.descriptors wanted options w ≠ []) :
    (∀ d ∈ run.descriptors wanted options w, w'.files.Written d.path d.source) ∧
      w'.files.Written run.project.settings.generated.aggregatePath
        (ToolsetModule.write ⟨aggregateName, Descriptor.imports (run.descriptors wanted options w)⟩)
      := by
  obtain ⟨servers, hselect, hservers⟩ := exists_servers_of_descriptors hsome
  have hdescriptors : run.descriptors wanted options w = _ := descriptors_eq hselect
  obtain ⟨hcollision, read, written, -, hwrite, hfiles⟩ := generate_success h hselect hservers
  rw [hdry, plan, Plan.files_ofDefinitions hdescriptors.symm hsome hcollision] at hwrite
  rw [hfiles]
  constructor
  · intro d hd
    refine written_descriptor (fun d hd => made_of_mem_descriptors hd)
      (nodup_descriptors run wanted options w) (fun f hf => ?_) hwrite hd
    rcases List.mem_append.1 hf with hf | hf
    · exact Plan.isOther_of_mem_toolsets hf
    · exact Plan.isOther_of_mem_aggregateFiles hf
  · rw [← List.append_assoc, Plan.aggregateFiles] at hwrite
    refine written_writeAll hwrite fun f hf => ?_
    rw [List.mem_singleton.1 hf, PlannedFile.path, GeneratedSettings.aggregatePath,
      Path.lastName_child, Path.lastName_child]
    decide

end CommandRun
end ToolBindings
