import ToolBindings.Proofs.Command.Collision
import ToolBindings.Proofs.Command.DryRun
import ToolBindings.Proofs.Command.Partial

/-!
# Aborted generations

A generation that a collision ends has cleaned, and has written the files that come before the
collision; nothing is put back. Apart from these and from new directories it leaves every file as it
was (`aborted_of_reports`).
-/

namespace ToolBindings

open FileTree (Grows Thinned)

/-! ## Filled trees -/

/-- A planned file stands at a place that its path led to, somewhere between two stages of a tree. -/
structure PlannedFile.StandsAt (t t' : FileTree) (l : Location) (f : PlannedFile) : Prop where
  led : ∃ made directory, Grows t made ∧ Grows made t' ∧
    made.Leads (made.start f.path) f.path.parent.names directory ∧
    made.at? directory = some .directory ∧ l = directory ++ [f.path.lastName]
  stands : t'.at? l = some (.file (Text.Utf8.encode f.text))

namespace PlannedFile.StandsAt

variable {t t' t'' : FileTree} {l : Location} {f : PlannedFile}

theorem from_earlier (h : f.StandsAt t' t'' l) (hgrows : Grows t t') : f.StandsAt t t'' l := by
  obtain ⟨⟨made, directory, hbefore, hafter, hleads⟩, hstands⟩ := h
  exact ⟨⟨made, directory, hgrows.trans hbefore, hafter, hleads⟩, hstands⟩

theorem until_later (h : f.StandsAt t t' l) (hgrows : Grows t' t'')
    (hsame : t''.at? l = t'.at? l) : f.StandsAt t t'' l := by
  obtain ⟨⟨made, directory, hbefore, hafter, hleads⟩, hstands⟩ := h
  exact ⟨⟨made, directory, hbefore, hafter.trans hgrows, hleads⟩, hsame.trans hstands⟩

end PlannedFile.StandsAt

/-- A tree into which some planned files were put, or some of them: every other place is what it was
or a new directory. -/
structure FileTree.Filled (files : List PlannedFile) (t t' : FileTree) : Prop where
  grows : Grows t t'
  at? : ∀ l, t'.at? l = t.at? l ∨ (t.at? l = none ∧ t'.at? l = some .directory) ∨
    ∃ f ∈ files, f.StandsAt t t' l

namespace FileTree.Filled

variable {t t' t'' : FileTree} {files : List PlannedFile}

theorem refl (files : List PlannedFile) (t : FileTree) : Filled files t t :=
  ⟨.refl t, fun _ => Or.inl rfl⟩

theorem trans (h : Filled files t t') (h' : Filled files t' t'') : Filled files t t'' := by
  refine ⟨h.grows.trans h'.grows, fun l => ?_⟩
  rcases h'.at? l with hsame | ⟨hnone, hdirectory⟩ | ⟨f, hf, hstands⟩
  · rcases h.at? l with hsame' | hnew | ⟨f, hf, hstands⟩
    · exact Or.inl (hsame.trans hsame')
    · exact Or.inr (Or.inl ⟨hnew.1, hsame.trans hnew.2⟩)
    · exact Or.inr (Or.inr ⟨f, hf, hstands.until_later h'.grows hsame⟩)
  · -- where nothing was after the first step, nothing was before it
    rcases h.at? l with hsame' | ⟨-, hdirectory'⟩ | ⟨f, hf, hstands⟩
    · exact Or.inr (Or.inl ⟨hsame' ▸ hnone, hdirectory⟩)
    · rw [hnone] at hdirectory'
      cases hdirectory'
    · have hfile := hstands.stands
      rw [hnone] at hfile
      cases hfile
  · exact Or.inr (Or.inr ⟨f, hf, hstands.from_earlier h.grows⟩)

theorem mono {files' : List PlannedFile} (h : Filled files t t') (hsub : files ⊆ files') :
    Filled files' t t' := by
  refine ⟨h.grows, fun l => ?_⟩
  exact (h.at? l).imp_right (Or.imp_right fun ⟨f, hf, hstands⟩ => ⟨f, hsub hf, hstands⟩)

theorem writeAtomic {f : PlannedFile} {tag : String}
    (h : t.writeAtomic tag f.path f.text = (t', .ok ())) : Filled [f] t t' := by
  obtain ⟨-, made, directory, hmade, hgrows, hleads, hdirectory, hfile, hframe⟩ := writeAtomic_ok h
  have hbefore : Grows t made := (onlyDirectories_makeDirectories hmade).grows
  refine ⟨hbefore.trans hgrows, fun l => ?_⟩
  by_cases hl : l = directory ++ [f.path.lastName]
  · exact Or.inr (Or.inr ⟨f, List.mem_singleton_self f,
      ⟨made, directory, hbefore, hgrows, hleads, hdirectory, hl⟩, hl ▸ hfile⟩)
  · exact (hframe l hl).imp_right Or.inl

end FileTree.Filled

/-- The name of a later file is not that of a module. -/
def PlannedFile.Spares (f f' : PlannedFile) : Prop :=
  ∀ path name source, f = .module path name source → f'.path.lastName ≠ path.lastName

theorem PlannedFile.spares_of_ne {f f' : PlannedFile} (h : f'.path.lastName ≠ f.path.lastName) :
    f.Spares f' := by
  rintro path name source rfl
  exact h

namespace CommandRun

variable {run : CommandRun} {w w' : Workspace} {files : List PlannedFile}

/-- Planned files that are written fill the tree. -/
theorem filled_writeAll (h : run.writeAll false files w = (.ok (), w')) :
    FileTree.Filled files w.files w'.files := by
  induction files generalizing w with
  | nil =>
    cases h
    exact .refl _ _
  | cons f rest ih =>
    obtain ⟨between, hfirst, hrest⟩ := writeAll_cons h
    have hwritten : FileTree.Filled [f] w.files between.files := by
      rcases writePlanned_ok hfirst with hsame | hwritten
      · rw [hsame]
        exact .refl _ _
      · exact .writeAtomic hwritten
    exact (hwritten.mono (by simp)).trans ((ih hrest).mono (List.subset_cons_self f rest))

/-- Modules that later files spare stand where they were written. -/
theorem written_of_spares (hspares : files.Pairwise PlannedFile.Spares)
    (h : run.writeAll false files w = (.ok (), w')) {path : Path} {name source : String}
    (hf : .module path name source ∈ files) : w'.files.Written path source := by
  obtain ⟨before, after, rfl⟩ := List.append_of_mem hf
  refine written_writeAll h fun f hmem => ?_
  have hlater := (List.pairwise_cons.1 (List.pairwise_append.1 hspares).2.1).1 f hmem
  exact hlater path name source rfl

end CommandRun

/-! ## Files before a collision -/

namespace Plan

variable {g : GeneratedSettings} {definitions : List Definition} {collision : Name.Collision}
  {files : List PlannedFile}

theorem isToolName_base (d : Definition) : IsToolName d.base :=
  ⟨.empty, _, d.server, d.tool.name, true,
    Name.Claimed.allocateTool_of_free (Name.Claimed.not_mem_empty _) true⟩

theorem isToolsetName_base (server : String) : IsToolsetName server (Name.toolsetBase server) :=
  ⟨.empty, _, true, Name.Claimed.allocateToolset_of_free (Name.Claimed.not_mem_empty _) true⟩

theorem lastName_based (g : GeneratedSettings) (d : Definition) :
    (Descriptor.based g d).file.path.lastName = moduleFile d.base :=
  Path.lastName_child _ _

theorem parent_based (g : GeneratedSettings) (d : Definition) :
    (Descriptor.based g d).file.path.parent = g.packagePath d.server :=
  Path.parent_child _ _

variable {descriptors : List Descriptor} {servers : List String} {f : PlannedFile}

theorem mem_basedToolsets (h : f ∈ basedToolsets g descriptors servers) :
    f.IsOther ∧ ∃ server ∈ servers, f.path.parent = g.packagePath server := by
  obtain ⟨server, hserver, hf⟩ := List.mem_flatMap.1 h
  rw [toolsetFiles, List.mem_pair] at hf
  rcases hf with rfl | rfl
  · exact ⟨PlannedFile.isOther_toolset (isToolsetName_base server) _ _ _, server, hserver,
      Path.parent_child _ _⟩
  · exact ⟨PlannedFile.isOther_marker _, server, hserver, Path.parent_child _ _⟩

/-- The files before a collision are in the packages of servers with definitions, so that the
aggregate is none of them. -/
theorem parent_of_collides (h : Collides g definitions collision files) (hf : f ∈ files) :
    ∃ d ∈ definitions, f.path.parent = g.packagePath d.server := by
  have hbased {d : Definition} (hd : d ∈ ordered definitions) :
      ∃ d' ∈ definitions, (Descriptor.based g d).file.path.parent = g.packagePath d'.server :=
    ⟨d, (perm_ordered definitions).mem_iff.1 hd, parent_based g d⟩
  cases h with
  | @tool before d h =>
    rw [List.map_map] at hf
    obtain ⟨d', hd', rfl⟩ := List.mem_map.1 hf
    exact hbased (h.begins.subset (List.mem_append_left _ hd'))
  | @toolset before server hdistinct h =>
    rcases List.mem_append.1 hf with hf | hf
    · rw [basedDescriptors, List.map_map] at hf
      obtain ⟨d', hd', rfl⟩ := List.mem_map.1 hf
      exact hbased hd'
    · obtain ⟨-, server', hserver', hparent⟩ := mem_basedToolsets hf
      obtain ⟨d, hd, rfl⟩ := mem_serversOf_basedDescriptors.1
        (h.begins.subset (List.mem_append_left _ hserver'))
      exact ⟨d, hd, hparent⟩

/-- Modules of definitions with different base names have different names. -/
theorem pairwise_spares_based {before : List Definition}
    (h : (before.map Definition.base).Nodup) :
    ((before.map (.based g)).map Descriptor.file).Pairwise PlannedFile.Spares := by
  rw [List.map_map, List.pairwise_map]
  refine (List.pairwise_map.1 (List.nodup_iff_pairwise_ne.1 h)).imp fun {d d'} hne => ?_
  refine PlannedFile.spares_of_ne fun hname => ?_
  rw [Function.comp, Function.comp, lastName_based, lastName_based] at hname
  exact hne (moduleFile_inj hname).symm

/-- Toolsets with different base names have different names, and none has that of a marker. -/
theorem pairwise_spares_basedToolsets (h : (servers.map Name.toolsetBase).Nodup) :
    (basedToolsets g descriptors servers).Pairwise PlannedFile.Spares := by
  have hlast (server source : String) :
      (PlannedFile.module (g.classPath server (Name.toolsetBase server))
        (g.className server (Name.toolsetBase server)) source).path.lastName
        = moduleFile (Name.toolsetBase server) := Path.lastName_child _ _
  have hmarker (directory : Path) : (PlannedFile.marker directory).path.lastName = packageMarker :=
    Path.lastName_child _ _
  have hne (server : String) : packageMarker ≠ moduleFile (Name.toolsetBase server) :=
    (isToolsetName_base server).moduleFile_ne_packageMarker.symm
  refine List.pairwise_flatMap.2 ⟨fun server _ => List.pairwise_pair.2 ?_, ?_⟩
  · exact PlannedFile.spares_of_ne (by rw [hmarker, hlast]; exact hne server)
  · refine (List.pairwise_map.1 (List.nodup_iff_pairwise_ne.1 h)).imp fun {server other} hother => ?_
    intro f hf f' hf'
    rw [toolsetFiles, List.mem_pair] at hf hf'
    rcases hf with rfl | rfl
    · refine PlannedFile.spares_of_ne ?_
      rcases hf' with rfl | rfl
      · rw [hlast, hlast]
        exact fun hname => hother (moduleFile_inj hname).symm
      · rw [hmarker, hlast]
        exact hne server
    · -- a marker is no module that could be lost
      intro path name source hmodule
      cases hmodule

/-- No module before a collision has the name of a later file. -/
theorem pairwise_spares_of_collides (h : Collides g definitions collision files) :
    files.Pairwise PlannedFile.Spares := by
  cases h with
  | tool h => exact pairwise_spares_based h.distinct
  | @toolset before server hdistinct h =>
    refine List.pairwise_append.2 ⟨pairwise_spares_based ((nodup_map_ordered _ _).2 hdistinct),
      pairwise_spares_basedToolsets h.distinct, fun f hf f' hf' => ?_⟩
    rw [basedDescriptors, List.map_map] at hf
    obtain ⟨d, -, rfl⟩ := List.mem_map.1 hf
    refine PlannedFile.spares_of_ne ?_
    rw [Function.comp, lastName_based]
    exact (mem_basedToolsets hf').1.lastName_ne (isToolName_base d)

end Plan

/-! ## Aborted runs -/

namespace CommandRun

variable {run : CommandRun} {wanted : List String} {options : GenerateOptions} {w : Workspace}
  {collision : Name.Collision}

/-- What a generation that stopped behind some of its files has made of a tree: it has cleaned and
written, and nothing else. -/
structure Stopped (run : CommandRun) (wanted : List String) (options : GenerateOptions)
    (w : Workspace) (files : List PlannedFile) (after : FileTree) : Prop where
  /-- All files are in packages of servers with definitions; the aggregate is none of them. -/
  inside : ∀ f ∈ files, ∃ d ∈ run.definitions wanted options w,
    f.path.parent = run.project.settings.generated.packagePath d.server
  /-- A dry run has done nothing. -/
  dry : options.dryRun = true → after = w.files
  /-- Cleaning has taken away nothing but clean targets and what was below them. -/
  cleaned : Thinned
    (fun l => ∃ p, run.Removes options (run.selected wanted) p ∧ w.files.Under p l) w.files
    (run.cleaned options (run.selected wanted) w).files
  /-- After that only the files were written. -/
  filled : options.dryRun = false →
    FileTree.Filled files (run.cleaned options (run.selected wanted) w).files after
  /-- Every module among them was written and stands. -/
  modules : options.dryRun = false →
    ∀ path name source, .module path name source ∈ files → after.Written path source

theorem thinned_cleaned {servers : List Server}
    (h : cleanPaths options.dryRun (run.targets options servers) w
      = (.ok (), run.cleaned options servers w)) :
    Thinned (fun l => ∃ p, run.Removes options servers p ∧ w.files.Under p l) w.files
      (run.cleaned options servers w).files := by
  cases hdry : options.dryRun with
  | true =>
    have hnot (p : Path) : ¬run.Removes options servers p := fun hp => by
      rw [hp.1] at hdry
      cases hdry
    have hchanges : FileTree.Changes run.tag (fun _ => False) (run.Removes options servers) w.files
        (run.cleaned options servers w).files := changes_cleaned run options servers w
    rw [hchanges.eq_of_none (fun _ => id) hnot]
    exact .refl _ _
  | false =>
    rw [hdry] at h
    refine (thinned_cleanPaths h).1.mono ?_
    rintro l ⟨p, hp, hunder⟩
    rw [targets] at hp
    split at hp
    · rename_i hclean
      exact ⟨p, ⟨hdry, hclean, hp⟩, hunder⟩
    · cases hp

/-- A generation that reports a collision has cleaned and written what comes before the collision,
and has left all else as it was. -/
theorem aborted_of_reports {dryRun clean : Bool}
    (h : Reports collision (run.generate wanted ⟨dryRun, clean, true⟩ w)) :
    ∃ files,
      Plan.Collides run.project.settings.generated
        (run.definitions wanted ⟨dryRun, clean, true⟩ w) collision files ∧
      run.Stopped wanted ⟨dryRun, clean, true⟩ w files
        (run.generate wanted ⟨dryRun, clean, true⟩ w).2.files := by
  have hsome : run.selected wanted ≠ [] := fun hnone => not_reports_of_selected hnone h
  obtain ⟨hcollision, hfree⟩ := (reports_generate_iff hsome).1 h
  obtain ⟨files, hcollides⟩ := Plan.collision_eq_some_iff.1 hcollision
  have hplan : (run.plan ⟨dryRun, clean, true⟩ (run.selected wanted) w).files = files :=
    congrArg Plan.files (Plan.ofDefinitions_of_collides hcollides)
  obtain ⟨hgenerate, hmet⟩ := unobstructed_of_generate hsome hfree
  obtain ⟨failed, read, written, hread, hwrite, hconcluded⟩ := generateFor_of_unobstructed hmet
  have hafter : (run.generate wanted ⟨dryRun, clean, true⟩ w).2.files = written.files := by
    rw [hgenerate, hconcluded, concluded, hcollision]
    rfl
  rw [hplan] at hwrite
  refine ⟨files, hcollides, fun f hf => Plan.parent_of_collides hcollides hf,
    fun hdry => files_generate_of_dryRun run wanted hdry w,
    thinned_cleaned (cleanPaths_of_unobstructed hmet), ?_, ?_⟩
  · rintro rfl
    rw [hafter, ← hread]
    exact filled_writeAll hwrite
  · rintro rfl path name source hf
    rw [hafter]
    exact written_of_spares (Plan.pairwise_spares_of_collides hcollides) hwrite hf

/-! ## A run that is aborted -/

/-- A manifest that lists two tools of one base name. -/
def clashingManifest : FileEntry :=
  .file (Text.Utf8.encode "\x7b\"tools\":[\x7b\"name\":\"a b\"\x7d,\x7b\"name\":\"a-b\"\x7d]\x7d")

/-- This manifest, and a package that was generated before. -/
def clashingWorkspace : Workspace :=
  workspaceOf [(["crm.json"], clashingManifest), (["generated_tools"], .directory),
    (["generated_tools", "Crm"], .directory), (["generated_tools", "Crm", "old.py"], .file [])]

/-- The collision of the two tools. -/
def clash : Name.Collision := .tool "crm" "a-b" "CrmABTool"

/-- The run cleans, and then a collision ends it. -/
def clashing : GenerateOptions := ⟨false, true, true⟩

private theorem generate_clashing : crm.generate [] clashing clashingWorkspace
    = reportingObstacles (crm.generateFor clashing [manifestServer]) clashingWorkspace := by
  rw [generate_eq selectServers_crm (by simp)]

/-- What comes of the run, evaluated once. -/
private theorem clashing_run :
    Reports clash
        (reportingObstacles (crm.generateFor clashing [manifestServer]) clashingWorkspace) ∧
      (reportingObstacles (crm.generateFor clashing [manifestServer]) clashingWorkspace).2.files.at?
        ["generated_tools", "Crm", "CrmABTool.py"] ≠ none ∧
      (reportingObstacles (crm.generateFor clashing [manifestServer]) clashingWorkspace).2.files.at?
        ["generated_tools", "Crm", "old.py"] = none := by
  decide +kernel

theorem aborted_clashing :
    Reports clash (crm.generate [] clashing clashingWorkspace) ∧
      ∃ files, Plan.Collides .default (crm.definitions [] clashing clashingWorkspace) clash files ∧
        crm.Stopped [] clashing clashingWorkspace files
          (crm.generate [] clashing clashingWorkspace).2.files := by
  have hreports : Reports clash (crm.generate [] clashing clashingWorkspace) := by
    rw [generate_clashing]
    exact clashing_run.1
  -- the two sides are brought to one spelling, so that neither run is evaluated here
  unfold clashing at hreports ⊢
  exact ⟨hreports, aborted_of_reports hreports⟩

/-- A run that a collision ends leaves a module that was not there before, and does not bring back
what it has cleaned. -/
theorem not_intact_clashing :
    Reports clash (crm.generate [] clashing clashingWorkspace) ∧
      clashingWorkspace.files.at? ["generated_tools", "Crm", "CrmABTool.py"] = none ∧
      (crm.generate [] clashing clashingWorkspace).2.files.at?
        ["generated_tools", "Crm", "CrmABTool.py"] ≠ none ∧
      clashingWorkspace.files.at? ["generated_tools", "Crm", "old.py"] = some (.file []) ∧
      (crm.generate [] clashing clashingWorkspace).2.files.at?
        ["generated_tools", "Crm", "old.py"] = none := by
  obtain ⟨hreports, hmodule, hold⟩ := clashing_run
  rw [generate_clashing]
  exact ⟨hreports, by decide, hmodule, by decide, hold⟩

end CommandRun

end ToolBindings
