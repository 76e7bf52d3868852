import ToolBindings.Proofs.Command.Cleaning
import ToolBindings.Proofs.Command.Pass

/-!
# Generations that start clean

In trees without links a generation that cleans does not depend on what an earlier one has left: if two
trees differ only in what the wanted servers' packages and the aggregate hold, it ends in the same way,
says the same of all but the cleaning, and leaves the same in both; and each of the packages then holds
exactly the files of its plan (`erased_of_generate`).
-/

namespace ToolBindings

open FileTree (Alike AlikeBut Orderly)

/-- A package holds exactly some files of a plan: these stand there with their texts, nothing else is
in it, and without any of them it is not there. -/
structure FileTree.HoldsExactly (t : FileTree) (package : Path) (files : List PlannedFile) : Prop where
  stands : ∀ f ∈ files, t.placeOf package <+: t.placeOf f.path →
    t.at? (t.placeOf f.path) = some (.file (Text.Utf8.encode f.text))
  only : ∀ l, t.placeOf package <+: l → l ≠ t.placeOf package → t.at? l ≠ none →
    ∃ f ∈ files, l = t.placeOf f.path
  absent : (∀ f ∈ files, ¬t.placeOf package <+: t.placeOf f.path) →
    t.at? (t.placeOf package) = none

/-- An output is in the directory that its parent leads to. -/
theorem GeneratedSettings.Output.below_parent {g : GeneratedSettings} {p : Path} (h : g.Output p)
    (t : FileTree) : t.placeOf p.parent <+: t.placeOf p := by
  have hchild {directory : Path} {name : String} (hup : name ≠ "..") :
      t.placeOf (directory.child name).parent <+: t.placeOf (directory.child name) := by
    rw [Path.parent_child, t.placeOf_child directory hup]
    exact List.prefix_append _ _
  cases h with
  | aggregate => exact hchild (by decide)
  | marker => exact hchild (by decide)
  | packageMarker => exact hchild (by decide)
  | module => exact hchild (CommandRun.moduleFile_ne_up _)

namespace CommandRun

variable {run : CommandRun} {servers : List Server} {w w' v : Workspace}

/-! ## Loading and writing -/

/-- Servers are loaded in the same way where the files are alike. -/
theorem loadServers_of_alike (servers : List Server) (h : Alike w.files v.files) :
    ∃ outcome said, loadServers servers w = (outcome, w.sayAll said) ∧
      loadServers servers v = (outcome, v.sayAll said) := by
  obtain ⟨outcome, said, -, hload⟩ := uniform_loadServers servers w.files
  exact ⟨outcome, said, hload w fun _ _ _ _ => ⟨rfl, rfl⟩,
    hload v fun _ _ path _ => ⟨h.isFile path, h.read path⟩⟩

theorem writePlanned_of_alike {f : PlannedFile} (h : Alike w.files v.files)
    (hwrite : run.writePlanned false f w = (.ok (), w')) :
    ∃ v', run.writePlanned false f v = (.ok (), v') ∧ Alike w'.files v'.files := by
  cases f with
  | module path name source =>
    have hsame := h.writeAtomic run.tag path source
    rw [writeAtomic_of_module hwrite] at hsame
    obtain ⟨files, hwritten, halike⟩ := hsame.of_eq
    simp only [writePlanned, Bool.false_eq_true, if_false, hwritten]
    exact ⟨_, rfl, halike⟩
  | marker directory =>
    simp only [writePlanned, Bool.false_eq_true, if_false] at hwrite ⊢
    rw [h.isPresent]
    split at hwrite
    · cases hwrite
    · cases hwrite
      exact ⟨v, rfl, h⟩
    · have hsame := h.writeAtomic run.tag (directory.child packageMarker) markerText
      split at hwrite
      · rename_i files hwritten
        cases hwrite
        rw [hwritten] at hsame
        obtain ⟨files', hwritten', halike⟩ := hsame.of_eq
        rw [hwritten']
        exact ⟨_, rfl, halike⟩
      · cases hwrite

/-- A plan is written in the same way where the files are alike. -/
theorem writeAll_of_alike {files : List PlannedFile} (h : Alike w.files v.files)
    (hwrite : run.writeAll false files w = (.ok (), w')) :
    ∃ v', run.writeAll false files v = (.ok (), v') ∧ Alike w'.files v'.files := by
  induction files generalizing w v with
  | nil =>
    cases hwrite
    exact ⟨v, rfl, h⟩
  | cons f rest ih =>
    obtain ⟨between, hfirst, hrest⟩ := writeAll_cons hwrite
    obtain ⟨between', hfirst', halike⟩ := writePlanned_of_alike h hfirst
    obtain ⟨v', hrest', halike'⟩ := ih halike hrest
    refine ⟨v', ?_, halike'⟩
    rw [writeAll, hfirst']
    exact hrest'

/-! ## What is written in a package -/

/-- What is at a place after writing: what was there, a new directory on the way to a planned file, or
a planned file. -/
theorem at?_of_writeAll {files : List PlannedFile} (hplain : w.files.Plain)
    (h : run.writeAll false files w = (.ok (), w')) (l : Location) :
    w'.files.at? l = w.files.at? l ∨
      (w.files.at? l = none ∧ w'.files.at? l = some .directory ∧
        ∃ f ∈ files, l ∈ w.files.way f.path.parent) ∨
      ∃ f ∈ files, l = w.files.placeOf f.path ∧
        w'.files.at? l = some (.file (Text.Utf8.encode f.text)) := by
  -- by induction on the plan: the way to a file is the same however far the plan has been written
  induction files generalizing w with
  | nil =>
    cases h
    exact Or.inl rfl
  | cons f rest ih =>
    obtain ⟨between, hfirst, hrest⟩ := writeAll_cons h
    have hgrows := grows_writePlanned hfirst
    have hlater := ih (hplain.grows hgrows) hrest
    have hway (p : Path) : between.files.way p = w.files.way p := by
      rw [FileTree.way, FileTree.way, FileTree.stations_of_here hgrows.here,
        FileTree.placeOf_of_here hgrows.here]
    simp only [hway, FileTree.placeOf_of_here hgrows.here] at hlater
    have hnow : between.files.at? l = w.files.at? l ∨
        (w.files.at? l = none ∧ between.files.at? l = some .directory ∧
          l ∈ w.files.way f.path.parent) ∨
        l = w.files.placeOf f.path ∧
          between.files.at? l = some (.file (Text.Utf8.encode f.text)) := by
      rcases writePlanned_ok hfirst with hsame | hwritten
      · exact Or.inl (by rw [hsame])
      · exact hplain.at?_of_writeAtomic hwritten l
    rcases hlater with hsame | ⟨hnone, hmade, f', hf', hl⟩ | ⟨f', hf', hl⟩
    · rw [hsame]
      rcases hnow with hbefore | ⟨hnone, hmade, hl⟩ | hfile
      · exact Or.inl hbefore
      · exact Or.inr (Or.inl ⟨hnone, hmade, f, List.mem_cons_self, hl⟩)
      · exact Or.inr (Or.inr ⟨f, List.mem_cons_self, hfile⟩)
    · rcases hnow with hbefore | ⟨-, hbefore, -⟩ | ⟨-, hbefore⟩
      · exact Or.inr (Or.inl ⟨hbefore ▸ hnone, hmade, f', List.mem_cons_of_mem f hf', hl⟩)
      · rw [hbefore] at hnone
        cases hnone
      · rw [hbefore] at hnone
        cases hnone
    · exact Or.inr (Or.inr ⟨f', List.mem_cons_of_mem f hf', hl⟩)

/-- The way to the directory of an output is that to the directory of generated files, with a place in
it where the output is in a package. -/
theorem mem_way_of_output {g : GeneratedSettings} {p : Path} (h : g.Output p) {t : FileTree}
    {l : Location} (hl : l ∈ t.way p.parent) :
    l ∈ t.way g.base ∨ l = t.placeOf p.parent ∧ ∃ name, l = t.placeOf g.base ++ [name] := by
  have hpackage {package : String} (hpackage : Name.IsClassName package)
      (hl : l ∈ t.way (g.base.child package)) :
      l ∈ t.way g.base ∨ l = t.placeOf (g.base.child package) ∧
        ∃ name, l = t.placeOf g.base ++ [name] := by
    rw [FileTree.way, FileTree.stations_eq_way_parent (by simp [Path.child]),
      Path.parent_child] at hl
    rcases List.mem_append.1 hl with hl | hl
    · exact Or.inl hl
    · have hplace := List.mem_singleton.1 hl
      exact Or.inr ⟨hplace, package, hplace.trans (t.placeOf_child g.base hpackage.ne_up)⟩
  cases h with
  | aggregate => exact Or.inl (by rwa [Path.parent_child] at hl)
  | marker => exact Or.inl (by rwa [Path.parent_child] at hl)
  | packageMarker hname =>
    rw [Path.parent_child] at hl ⊢
    exact hpackage hname hl
  | module hname _ =>
    rw [Path.parent_child] at hl ⊢
    exact hpackage hname hl

/-- A package in which nothing is holds exactly the files of a plan that is written, if the way to the
directory of generated files does not come to it. -/
theorem holdsExactly_of_writeAll {g : GeneratedSettings} {files : List PlannedFile} {server : String}
    (hplain : w.files.Plain) (houtputs : ∀ f ∈ files, g.Output f.path)
    (hapart : files.Pairwise PlannedFile.Apart)
    (hempty : ∀ l, w.files.placeOf (g.packagePath server) <+: l → w.files.at? l = none)
    (hway : ∀ l ∈ w.files.way g.base, ¬w.files.placeOf (g.packagePath server) <+: l)
    (h : run.writeAll false files w = (.ok (), w')) :
    w'.files.HoldsExactly (g.packagePath server) files := by
  have hgrows := grows_writeAll h
  -- no directory is made in the package, and if it is made itself then for a file in it
  have hdirectory {l : Location} (hl : w.files.placeOf (g.packagePath server) <+: l)
      {f : PlannedFile} (hf : f ∈ files) (hmade : l ∈ w.files.way f.path.parent) :
      l = w.files.placeOf (g.packagePath server) ∧ l = w.files.placeOf f.path.parent := by
    rcases mem_way_of_output (houtputs f hf) hmade with hbase | ⟨hplace, name, hname⟩
    · exact absurd hl (hway l hbase)
    · refine ⟨?_, hplace⟩
      rw [hname, placeOf_packagePath] at hl ⊢
      exact (hl.eq_of_length (by simp)).symm
  have hfile {l : Location} (hl : w.files.placeOf (g.packagePath server) <+: l)
      (hne : l ≠ w.files.placeOf (g.packagePath server)) (hsome : w'.files.at? l ≠ none) :
      ∃ f ∈ files, l = w.files.placeOf f.path ∧
        w'.files.at? l = some (.file (Text.Utf8.encode f.text)) := by
    rcases at?_of_writeAll hplain h l with hsame | ⟨-, -, f, hf, hmade⟩ | hfile
    · exact absurd (hsame.trans (hempty l hl)) hsome
    · exact absurd (hdirectory hl hf hmade).1 hne
    · exact hfile
  refine ⟨fun f hf hin => ?_, fun l hl hne hsome => ?_, fun hnone => ?_⟩
  · rw [hgrows.placeOf, hgrows.placeOf] at hin
    have hstands := stands_of_writeAll hplain houtputs hapart h f hf
    cases f with
    | module path name source => exact ((hplain.grows hgrows).read_eq_ok.1 hstands).2
    | marker directory =>
      rw [PlannedFile.path] at hin ⊢
      have hne : w.files.placeOf (directory.child packageMarker)
          ≠ w.files.placeOf (g.packagePath server) := by
        rw [FileTree.placeOf_child _ _ (by decide), placeOf_packagePath]
        intro hplace
        have hmarker : moduleFile "__init__" = packageMarker := by decide
        exact moduleFile_ne_package "__init__" server (hmarker.trans (last_eq hplace))
      rcases hstands with ⟨octets, hread, rfl | hbefore⟩ | hmade
      · exact ((hplain.grows hgrows).read_eq_ok.1 hread).2
      · rw [hempty _ hin] at hbefore
        cases hbefore
      · have hat := ((hplain.grows hgrows).isDirectory_eq_true.1 hmade).2
        rw [hgrows.placeOf] at hat
        obtain ⟨f, -, -, hother⟩ := hfile hin hne (by simp [hat])
        rw [hat] at hother
        cases hother
  · rw [hgrows.placeOf] at hl hne
    obtain ⟨f, hf, hplace, -⟩ := hfile hl hne hsome
    exact ⟨f, hf, hplace.trans (hgrows.placeOf f.path).symm⟩
  · have hnone : ∀ f ∈ files, ¬w.files.placeOf (g.packagePath server) <+: w.files.placeOf f.path := by
      intro f hf
      simpa only [hgrows.placeOf] using hnone f hf
    rw [hgrows.placeOf]
    rcases at?_of_writeAll hplain h (w.files.placeOf (g.packagePath server)) with
      hsame | ⟨-, -, f, hf, hmade⟩ | ⟨f, hf, hplace, -⟩
    · exact hsame.trans (hempty _ (List.prefix_refl _))
    · have hparent := (hdirectory (List.prefix_refl _) hf hmade).2
      exact absurd (hparent ▸ (houtputs f hf).below_parent w.files) (hnone f hf)
    · exact absurd (hplace ▸ List.prefix_refl _) (hnone f hf)

/-! ## Two generations -/

variable {wanted : List String} {options : GenerateOptions}

/-- What two generations that clean first come to where they start from trees that differ in what is
cleaned alone. -/
structure Erased (run : CommandRun) (wanted : List String) (options : GenerateOptions)
    (w v : Workspace) : Prop where
  outcome : (run.generate wanted options v).1 = (run.generate wanted options w).1
  /-- All that is said is the same, the number of modules too, but for what has been cleaned. -/
  said : ∃ said said', (run.generate wanted options w).2.notices = w.notices ++ said ∧
    (run.generate wanted options v).2.notices = v.notices ++ said' ∧
    said.filter (!·.isCleaning) = said'.filter (!·.isCleaning)
  files : Alike (run.generate wanted options w).2.files (run.generate wanted options v).2.files
  packages : ∀ server ∈ run.selected wanted,
    (run.generate wanted options w).2.files.HoldsExactly
      (run.project.settings.generated.packagePath server.slug)
      (run.plan options (run.selected wanted) w).files

/-- What a generation for servers replaces: their packages and the aggregate. -/
def Replaces (run : CommandRun) (servers : List Server) (t : FileTree) : Location → Prop :=
  Below (cleanTargets run.project.settings.generated servers) t

/-- Every generation that gets through ends with a status and a last word. -/
theorem concluded_eq (plan : Plan) (failed : Bool) :
    ∃ status last, ∀ w, concluded plan failed w = (.ok status, w.say last) := by
  cases hcollision : plan.collision with
  | some collision =>
    refine ⟨.failure, .failed (.configuration (.collision collision)), fun w => ?_⟩
    rw [concluded, hcollision]
  | none =>
    refine ⟨.ofFailed failed, .generatedCount plan.moduleCount, fun w => ?_⟩
    rw [concluded, hcollision]

/-- A generation that has cleaned, loaded and written concludes. -/
theorem generateFor_of_written {cleaned read written : Workspace} {loaded : Loaded}
    (hclean : options.clean = true) (hdry : options.dryRun = false)
    (hcleaned : cleanPaths false (cleanTargets run.project.settings.generated servers) w
      = (.ok (), cleaned))
    (hload : loadServers servers cleaned = (.ok loaded, read))
    (hwrite : run.writeAll false (Plan.ofDefinitions run.project.settings.generated
      (!options.failOnCollision) loaded.definitions).files read = (.ok (), written)) :
    run.generateFor options servers w = concluded (.ofDefinitions run.project.settings.generated
      (!options.failOnCollision) loaded.definitions) loaded.failed written := by
  rw [generateFor]
  simp only [hdry, if_pos hclean, hcleaned, hload]
  exact carryOut_of_written hwrite

section

variable (hclean : options.clean = true) (hdry : options.dryRun = false)
  (hw : w.files.Orderly) (hv : v.files.Orderly)
  (halike : AlikeBut (run.Replaces servers w.files) w.files v.files)
  (haside : w.files.ClimbsAside (run.Replaces servers w.files) run.project.settings.generated.base)
  (hmet : ∀ e, (run.generateFor options servers w).1 ≠ .error (.file e))

include hclean hdry hw hv halike haside hmet

/-- Both generations write one plan to trees that are alike, and conclude in the same way. -/
theorem generateFor_of_alikeBut :
    ∃ (failed : Bool) (cleaned read written written' : Workspace) (said said' : List Notice),
      cleanPaths false (cleanTargets run.project.settings.generated servers) w = (.ok (), cleaned) ∧
      read.files = cleaned.files ∧
      run.writeAll false (run.plan options servers w).files read = (.ok (), written) ∧
      run.generateFor options servers w
        = concluded (run.plan options servers w) failed written ∧
      run.generateFor options servers v
        = concluded (run.plan options servers w) failed written' ∧
      Alike written.files written'.files ∧
      written.notices = w.notices ++ said ∧ written'.notices = v.notices ++ said' ∧
      said.filter (!·.isCleaning) = said'.filter (!·.isCleaning) := by
  have hcleaned := cleanPaths_of_unobstructed hmet
  rw [hdry, targets, if_pos hclean] at hcleaned
  obtain ⟨cleaned', hcleaned', hfiles⟩ :=
    alike_cleanPaths (fun p hp => exists_name_of_mem_cleanTargets hp) hw hv halike haside hcleaned
  obtain ⟨-, cleaning, hcleaning, hall⟩ := thinned_cleanPaths hcleaned
  obtain ⟨-, cleaning', hcleaning', hall'⟩ := thinned_cleanPaths hcleaned'
  -- from trees that are alike the same is loaded, so that there is one plan for both
  obtain ⟨outcome, loading, hload, hload'⟩ := loadServers_of_alike servers hfiles
  rw [generateFor] at hmet
  simp only [hdry, if_pos hclean, hcleaned, hload] at hmet
  cases outcome with
  | error crash =>
    obtain ⟨e, rfl⟩ := crash_loadServers hload
    exact absurd rfl (hmet e)
  | ok loaded =>
    have hplan : .ofDefinitions run.project.settings.generated (!options.failOnCollision)
        loaded.definitions = run.plan options servers w := by
      rw [(loadServers_ok hload).1, plan]
    dsimp only at hmet
    rw [hplan] at hmet
    rcases hwrite : run.writeAll false (run.plan options servers w).files
      ((run.cleaned options servers w).sayAll loading) with ⟨crash | done, written⟩
    · obtain ⟨e, rfl⟩ := crash_writeAll hwrite
      rw [carryOut, hwrite] at hmet
      exact absurd rfl (hmet e)
    · have hloaded : Alike ((run.cleaned options servers w).sayAll loading).files
          (cleaned'.sayAll loading).files := hfiles
      obtain ⟨written', hwrite', hwritten⟩ := writeAll_of_alike hloaded hwrite
      have hsaid := notices_writeAll hwrite
      have hsaid' := notices_writeAll hwrite'
      rw [Workspace.sayAll, hcleaning, List.append_assoc, List.append_assoc] at hsaid
      rw [Workspace.sayAll, hcleaning', List.append_assoc, List.append_assoc] at hsaid'
      have hnone : cleaning.filter (!·.isCleaning) = [] := by
        simpa [List.filter_eq_nil_iff] using hall
      have hnone' : cleaning'.filter (!·.isCleaning) = [] := by
        simpa [List.filter_eq_nil_iff] using hall'
      rw [← hplan] at hwrite hwrite'
      have hends := generateFor_of_written hclean hdry hcleaned hload hwrite
      have hends' := generateFor_of_written hclean hdry hcleaned' hload' hwrite'
      rw [hplan] at hwrite hends hends'
      exact ⟨loaded.failed, _, (run.cleaned options servers w).sayAll loading, written, written', _, _,
        hcleaned, rfl, hwrite, hends, hends', hwritten, hsaid, hsaid',
        by simp only [List.filter_append, hnone, hnone']⟩

end

/-- Once what a generation replaces is cleaned, each of its packages holds exactly the files of its plan
that is written. -/
theorem holdsExactly_of_cleaned {cleaned read written : Workspace} {server : Server}
    (hserver : server ∈ servers) (hw : w.files.Orderly)
    (haside : w.files.ClimbsAside (run.Replaces servers w.files) run.project.settings.generated.base)
    (hcleaned : cleanPaths false (cleanTargets run.project.settings.generated servers) w
      = (.ok (), cleaned))
    (hread : read.files = cleaned.files)
    (hwrite : run.writeAll false (run.plan options servers w).files read = (.ok (), written)) :
    written.files.HoldsExactly (run.project.settings.generated.packagePath server.slug)
      (run.plan options servers w).files := by
  have hnames : ∀ p ∈ cleanTargets run.project.settings.generated servers,
      ∃ name, p = run.project.settings.generated.base.child name ∧ Childlike name :=
    fun p hp => exists_name_of_mem_cleanTargets hp
  obtain ⟨hcleared, horderly⟩ := cleared_cleanPaths hnames hw haside hcleaned
  have hway := not_below_way hnames fun k hk => (haside k hk).2
  -- the package is one of the targets
  have htarget {l : Location} (hl : w.files.placeOf
      (run.project.settings.generated.packagePath server.slug) <+: l) :
      Below (cleanTargets run.project.settings.generated servers) w.files l :=
    ⟨_, List.mem_append_left _ (List.mem_map_of_mem hserver), hl⟩
  have hhere : read.files.here = w.files.here := by rw [hread, hcleared.here]
  refine holdsExactly_of_writeAll (g := run.project.settings.generated)
    (hread ▸ horderly.plain : read.files.Plain) (fun f hf => (Plan.placed_of_mem hf).output)
    (Plan.pairwise_apart_ofDefinitions _ _ _) (fun l hl => ?_) (fun l hl hin => ?_) hwrite
  · rw [FileTree.placeOf_of_here hhere] at hl
    rw [hread]
    exact hcleared.gone l (htarget hl)
  · rw [FileTree.placeOf_of_here hhere] at hin
    rw [FileTree.way, FileTree.stations_of_here hhere, FileTree.placeOf_of_here hhere] at hl
    exact hway l hl (htarget hin)

/-- A generation that cleans and meets no obstacle erases what was there: where two trees differ only
in what it replaces, it comes to the same. -/
theorem erased_of_generate (hsome : run.selected wanted ≠ []) (hclean : options.clean = true)
    (hdry : options.dryRun = false) (hw : w.files.Orderly) (hv : v.files.Orderly)
    (halike : AlikeBut (run.Replaces (run.selected wanted) w.files) w.files v.files)
    (haside : w.files.ClimbsAside (run.Replaces (run.selected wanted) w.files)
      run.project.settings.generated.base)
    (hfree : ¬Obstructed (run.generate wanted options w)) : run.Erased wanted options w v := by
  obtain ⟨hgenerate, hmet⟩ := unobstructed_of_generate hsome hfree
  obtain ⟨failed, cleaned, read, written, written', said, said', hcleaned, hread, hwrite,
    hfor, hfor', hfiles, hsaid, hsaid', hsame⟩ :=
    generateFor_of_alikeBut hclean hdry hw hv halike haside hmet
  obtain ⟨status, last, hends⟩ := concluded_eq (run.plan options (run.selected wanted) w) failed
  rw [hends] at hfor hfor'
  rw [hfor] at hgenerate
  -- the other generation meets no obstacle either, for it ends in the same way
  have hgenerate' : run.generate wanted options v = (.ok status, written'.say last) := by
    rw [generate_selected hsome, reportingObstacles_of_unobstructed (by rw [hfor']; simp), hfor']
  have hpackages : ∀ server ∈ run.selected wanted, written.files.HoldsExactly
      (run.project.settings.generated.packagePath server.slug)
      (run.plan options (run.selected wanted) w).files :=
    fun server hserver => holdsExactly_of_cleaned hserver hw haside hcleaned hread hwrite
  refine ⟨?_, ⟨said ++ [last], said' ++ [last], ?_, ?_, ?_⟩, ?_, ?_⟩
  · rw [hgenerate, hgenerate']
  · rw [hgenerate, ← List.append_assoc, ← hsaid]
    rfl
  · rw [hgenerate', ← List.append_assoc, ← hsaid']
    rfl
  · rw [List.filter_append, List.filter_append, hsame]
  · rw [hgenerate, hgenerate']
    exact hfiles
  · rw [hgenerate]
    exact hpackages

/-! ## Runs that clean -/

/-- Modules are written, after what was generated before is removed. -/
def cleaning : GenerateOptions := ⟨false, true, false⟩

/-- A run that succeeds with a good last word has met no obstacle. -/
theorem not_obstructed_of_tone {outcome : Except Crash ExitStatus × Workspace}
    (hends : outcome.1 = .ok .success)
    (htone : outcome.2.notices.getLast?.map Notice.tone = some .good) : ¬Obstructed outcome := by
  rintro (hnul | ⟨e, hlast⟩)
  · rw [hends] at hnul
    cases hnul
  · rw [hlast] at htone
    cases htone

/-- The manifest of `generatedWorkspace`, with a file where its package is and a directory where the
aggregate is written. -/
def clutteredWorkspace : Workspace :=
  workspaceOf [(["crm.json"], searchManifest), (["generated_tools"], .directory),
    (["generated_tools", "Crm"], .file []), (["generated_tools", "McpToolset.py"], .directory),
    (["generated_tools", "McpToolset.py", "old.py"], .file [])]

theorem orderly_generatedWorkspace : generatedWorkspace.files.Orderly :=
  .of_entries (by decide +kernel)

theorem orderly_clutteredWorkspace : clutteredWorkspace.files.Orderly :=
  .of_entries (by decide +kernel)

/-- All that the two do not share is replaced. -/
theorem alikeBut_clutteredWorkspace :
    AlikeBut (crm.Replaces (crm.selected []) generatedWorkspace.files) generatedWorkspace.files
      clutteredWorkspace.files := by
  have hreplaced : ∀ l ∈ [["generated_tools", "Crm"], ["generated_tools", "Crm", "old.py"],
      ["generated_tools", "McpToolset.py"], ["generated_tools", "McpToolset.py", "old.py"]],
      ∃ p ∈ cleanTargets crm.project.settings.generated (crm.selected []),
        generatedWorkspace.files.placeOf p <+: l := by decide +kernel
  refine FileTree.alikeBut_of_append [(["crm.json"], searchManifest), (["generated_tools"], .directory)]
    fun e he => hreplaced e.1 ?_
  simp at he
  rcases he with rfl | rfl | rfl | rfl | rfl <;> simp

/-- The package is generated anew, whatever stood at its place and at that of the aggregate. -/
theorem erased_of_generate_crm :
    crm.selected [] ≠ [] ∧ cleaning.clean = true ∧ cleaning.dryRun = false ∧
      (crm.generate [] cleaning generatedWorkspace).1 = .ok .success ∧
      crm.Erased [] cleaning generatedWorkspace clutteredWorkspace := by
  have hsome : crm.selected [] ≠ [] := by
    rw [selected, selectServers_crm]
    exact List.cons_ne_nil _ _
  obtain ⟨hsuccess, htone⟩ :
      (crm.generate [] cleaning generatedWorkspace).1 = .ok .success ∧
        (crm.generate [] cleaning generatedWorkspace).2.notices.getLast?.map Notice.tone
          = some .good := by
    decide +kernel
  refine ⟨hsome, rfl, rfl, hsuccess, erased_of_generate hsome rfl rfl orderly_generatedWorkspace
    orderly_clutteredWorkspace alikeBut_clutteredWorkspace (fun k hk => ?_)
    (not_obstructed_of_tone hsuccess htone)⟩
  have hclimbs : generatedWorkspace.files.climbs crm.project.settings.generated.base = [] := by
    decide +kernel
  rw [hclimbs] at hk
  cases hk

/-- The run, with another path to the directory of generated files. -/
def detouring (path : String) : CommandRun :=
  { crm with project := ⟨{ Registry.oneServer "crm" "crm.json" with generated := ⟨path, "g"⟩ }, []⟩ }

/-- The manifest, and a package that was generated before. -/
def packageWorkspace : Workspace :=
  workspaceOf [(["crm.json"], searchManifest), (["g"], .directory), (["g", "Crm"], .directory),
    (["g", "Crm", "old.py"], .file [])]

/-- An empty package and no manifest. -/
def emptyWorkspace : Workspace := workspaceOf [(["g"], .directory), (["g", "Crm"], .directory)]

/-- An aggregate beside the package. -/
def aggregateWorkspace : Workspace :=
  workspaceOf [(["g"], .directory), (["g", "Crm"], .directory), (["g", "McpToolset.py"], .file [])]

/-- A run without servers. -/
def serverless : CommandRun := { crm with project := ⟨⟨[], List.nodup_nil, [], ⟨"g", "g"⟩⟩, []⟩ }

theorem generate_serverless (w : Workspace) :
    serverless.generate [] cleaning w = (.ok .success, w.say (.noServers "generation")) := by
  have hsorted : Text.sortedBy (·.1) serverless.project.settings.servers = [] := rfl
  have hselect : serverless.project.settings.selectServers [] = .ok [] := by
    rw [Settings.selectServers, Settings.allServers, hsorted]
    rfl
  rw [generate, withServers, hselect]

/-- What the first of the runs comes to, evaluated once. -/
private theorem detouring_run :
    let run := detouring "x/../g"
    let after := run.generate [] cleaning packageWorkspace
    after.1 = .ok .success ∧ after.2.notices.getLast?.map Notice.tone = some .good ∧
      (∃ server ∈ run.selected [], server.slug = "crm") ∧
      after.2.files.placeOf (run.project.settings.generated.packagePath "crm") = ["g", "Crm"] ∧
      after.2.files.at? ["g", "Crm", "old.py"] = some (.file []) ∧
      ∀ f ∈ (run.plan cleaning (run.selected []) packageWorkspace).files,
        ["g", "Crm", "old.py"] ≠ after.2.files.placeOf f.path := by
  decide +kernel

/-- A package is not found by way of a directory that is missing: it is not cleaned, and once the
directory has been made it is written into. Nor is the aggregate found by way of the package, once that
has been cleaned. Without servers nothing is cleaned. -/
theorem not_erased_of_generate :
    ((detouring "x/../g").selected [] ≠ [] ∧ packageWorkspace.files.Orderly ∧
      ¬Obstructed ((detouring "x/../g").generate [] cleaning packageWorkspace) ∧
      ¬(detouring "x/../g").Erased [] cleaning packageWorkspace packageWorkspace) ∧
    (aggregateWorkspace.files.Orderly ∧ emptyWorkspace.files.Orderly ∧
      ((detouring "g/Crm/..").selected [] ≠ [] ∧
        AlikeBut ((detouring "g/Crm/..").Replaces ((detouring "g/Crm/..").selected [])
          emptyWorkspace.files) emptyWorkspace.files aggregateWorkspace.files ∧
        ¬Obstructed ((detouring "g/Crm/..").generate [] cleaning emptyWorkspace) ∧
        ¬(detouring "g/Crm/..").Erased [] cleaning emptyWorkspace aggregateWorkspace) ∧
      AlikeBut (serverless.Replaces [] emptyWorkspace.files) emptyWorkspace.files
          aggregateWorkspace.files ∧
        ¬Obstructed (serverless.generate [] cleaning emptyWorkspace) ∧
        ¬serverless.Erased [] cleaning emptyWorkspace aggregateWorkspace) := by
  have halikeBut {lost : Location → Prop} (hlost : lost ["g", "McpToolset.py"]) :
      AlikeBut lost emptyWorkspace.files aggregateWorkspace.files := by
    refine FileTree.alikeBut_of_append [(["g"], .directory), (["g", "Crm"], .directory)]
      fun e he => ?_
    rw [List.nil_append, List.mem_singleton] at he
    rwa [he]
  -- the missing directory, the package that the aggregate is found through, and no servers
  refine ⟨⟨?_, .of_entries (by decide +kernel), ?_, fun herased => ?_⟩,
    .of_entries (by decide +kernel), .of_entries (by decide +kernel),
    ⟨?_, halikeBut ?_, ?_, fun herased => ?_⟩, halikeBut ?_, ?_, fun herased => ?_⟩
  · obtain ⟨-, -, ⟨server, hserver, -⟩, -⟩ := detouring_run
    exact List.ne_nil_of_mem hserver
  · obtain ⟨hsuccess, htone, -⟩ := detouring_run
    exact not_obstructed_of_tone hsuccess htone
  · obtain ⟨-, -, ⟨server, hserver, hslug⟩, hplace, hat, hplanned⟩ := detouring_run
    have hexactly := herased.packages server hserver
    rw [hslug] at hexactly
    obtain ⟨f, hf, hold⟩ := hexactly.only ["g", "Crm", "old.py"]
      (hplace ▸ List.prefix_append ["g", "Crm"] ["old.py"]) (hplace ▸ by decide) (by simp [hat])
    exact hplanned f hf hold
  · decide +kernel
  · show ∃ p ∈ _, _
    decide +kernel
  · obtain ⟨hsuccess, htone⟩ :
        ((detouring "g/Crm/..").generate [] cleaning emptyWorkspace).1 = .ok .success ∧
          ((detouring "g/Crm/..").generate [] cleaning emptyWorkspace).2.notices.getLast?.map
            Notice.tone = some .good := by
      decide +kernel
    exact not_obstructed_of_tone hsuccess htone
  · exact absurd (herased.files.at? ["g", "McpToolset.py"]) (by decide +kernel)
  · exact ⟨_, .head _, by decide +kernel⟩
  · rw [generate_serverless]
    rintro (hnul | ⟨e, hlast⟩)
    · cases hnul
    · simp [Workspace.say] at hlast
  · have hsame := herased.files.at? ["g", "McpToolset.py"]
    rw [generate_serverless, generate_serverless] at hsame
    exact absurd hsame (by decide +kernel)

end CommandRun
end ToolBindings
