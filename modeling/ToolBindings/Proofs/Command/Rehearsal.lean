import ToolBindings.Proofs.Command.Changes
import ToolBindings.Proofs.Command.LoadBack
import ToolBindings.Proofs.Command.Survival
import ToolBindings.Proofs.FileTree.Removing

/-!
# Rehearsals

A dry run of a generation foretells what the generation says and how it ends, if that meets no
obstacle, if all that it cleans can be looked up, and if no manifest path comes to what it cleans
(`foretold_generate`). The two runs clean differently, after that load the same (`uniform_loadServers`),
and so have the same plan; where one says what it would write the other says what it has written
(`writeAll_trying`, `notices_writeAll`).
-/

namespace ToolBindings

/-! ## What is said -/

namespace Notice

/-- What becomes of a cleaned path. -/
def isCleaning : Notice → Bool
  | .wouldClean _ | .cleaned _ | .notCleaned .. => true
  | _ => false

/-- What is said once that is written which would be. -/
def carriedOut : Notice → Notice
  | .wouldGenerate path _ => .generated path
  | notice => notice

@[simp] theorem isCleaning_carriedOut (notice : Notice) :
    notice.carriedOut.isCleaning = notice.isCleaning := by
  cases notice <;> rfl

/-- What is said when something is tried out foretells what is said when it is carried out, the
cleaned paths aside. -/
def Foretell (said said' : List Notice) : Prop :=
  (said.map carriedOut).filter (!·.isCleaning) = said'.filter (!·.isCleaning)

variable {said said' more more' : List Notice}

theorem Foretell.append (h : Foretell said said') (hmore : Foretell more more') :
    Foretell (said ++ more) (said' ++ more') := by
  rw [Foretell] at h hmore ⊢
  rw [List.map_append, List.filter_append, List.filter_append, h, hmore]

theorem foretell_carriedOut (said : List Notice) : Foretell said (said.map carriedOut) := rfl

theorem foretell_self (h : ∀ notice ∈ said, notice.carriedOut = notice) : Foretell said said := by
  rw [Foretell, List.map_congr_left h, List.map_id']

theorem foretell_cleaning (h : ∀ notice ∈ said, notice.isCleaning = true)
    (h' : ∀ notice ∈ said', notice.isCleaning = true) : Foretell said said' := by
  have hnone : (said.map carriedOut).filter (!·.isCleaning) = [] := by
    simpa [List.filter_eq_nil_iff] using h
  have hnone' : said'.filter (!·.isCleaning) = [] := by
    simpa [List.filter_eq_nil_iff] using h'
  rw [Foretell, hnone, hnone']

end Notice

namespace Workspace

/-- Says several things. -/
def sayAll (w : Workspace) (said : List Notice) : Workspace :=
  { w with notices := w.notices ++ said }

@[simp] theorem files_sayAll (w : Workspace) (said : List Notice) :
    (w.sayAll said).files = w.files := rfl

@[simp] theorem sayAll_nil (w : Workspace) : w.sayAll [] = w := by simp [sayAll]

theorem sayAll_sayAll (w : Workspace) (said more : List Notice) :
    (w.sayAll said).sayAll more = w.sayAll (said ++ more) := by simp [sayAll]

end Workspace

/-- What a dry run has to do with the run that it stands for: it ends in the same way and says the
same, but that it speaks of what would be generated, and the cleaned paths aside. -/
structure Foretold (w : Workspace) (dry real : Except Crash ExitStatus × Workspace) : Prop where
  outcome : dry.1 = real.1
  said : ∃ said said', dry.2.notices = w.notices ++ said ∧ real.2.notices = w.notices ++ said' ∧
    Notice.Foretell said said'

namespace CommandRun

open FileTree (Thinned)

variable {run : CommandRun} {servers : List Server} {server : Server} {path : Path}
  {paths : List Path} {w w' : Workspace} {crash : Crash}

/-! ## Cleaning -/

theorem crash_cleanPaths {dryRun : Bool} (h : cleanPaths dryRun paths w = (.error crash, w')) :
    ∃ e, crash = .file e := by
  induction paths generalizing w with
  | nil => cases h
  | cons path rest ih =>
    rw [cleanPaths] at h
    split at h
    · exact ih h
    · rename_i between hpath
      cases h
      rw [cleanPath] at hpath
      split at hpath
      · rename_i e _
        cases hpath
        exact ⟨e, rfl⟩
      · cases hpath
      · split at hpath
        · cases hpath
        · split at hpath <;> cases hpath

theorem cleanPath_of_absent {dryRun : Bool} (h : w.files.isPresent path = .ok false) :
    cleanPath dryRun path w = (.ok (), w) := by
  rw [cleanPath, h]

theorem thinned_cleanPath (h : cleanPath false path w = (.ok (), w')) :
    Thinned (w.files.Under path) w.files w'.files ∧
      ∃ said, w'.notices = w.notices ++ said ∧ ∀ notice ∈ said, notice.isCleaning = true := by
  rw [cleanPath] at h
  simp only [Bool.false_eq_true, if_false] at h
  split at h
  · cases h
  · cases h
    exact ⟨.refl _ _, [], by simp, by simp⟩
  · split at h
    · rename_i e _
      cases h
      exact ⟨.refl _ _, [.notCleaned path e], rfl, by simp [Notice.isCleaning]⟩
    · rename_i files hremoved
      cases h
      refine ⟨?_, [.cleaned path], rfl, by simp [Notice.isCleaning]⟩
      rw [removeAny] at hremoved
      split at hremoved
      · cases hremoved
      · exact FileTree.thinned_removeTree hremoved
      · exact FileTree.thinned_removeFile hremoved

/-- Cleaning takes away nothing but what stands at the paths and below. -/
theorem thinned_cleanPaths (h : cleanPaths false paths w = (.ok (), w')) :
    Thinned (fun k => ∃ path ∈ paths, w.files.Under path k) w.files w'.files ∧
      ∃ said, w'.notices = w.notices ++ said ∧ ∀ notice ∈ said, notice.isCleaning = true := by
  induction paths generalizing w with
  | nil =>
    cases h
    exact ⟨.refl _ _, [], by simp, by simp⟩
  | cons path rest ih =>
    rw [cleanPaths] at h
    split at h
    · rename_i between hpath
      obtain ⟨hthinned, said, hsaid, hcleaning⟩ := thinned_cleanPath hpath
      have hfirst : Thinned (fun k => ∃ path' ∈ path :: rest, w.files.Under path' k) w.files
          between.files := hthinned.mono fun k hk => ⟨path, List.mem_cons_self, hk⟩
      obtain ⟨hrest, more, hmore, hmoreCleaning⟩ := ih h
      refine ⟨hfirst.trans (hrest.mono ?_), said ++ more, ?_, ?_⟩
      · -- the later paths lead to where they led before the first was cleaned
        rintro k ⟨path', hpath', hk⟩
        exact ⟨path', List.mem_cons_of_mem path hpath', hfirst.under hk⟩
      · rw [hmore, hsaid, List.append_assoc]
      · exact List.forall_mem_append.2 ⟨hcleaning, hmoreCleaning⟩
    · cases h

/-- Trying out to clean says what would be cleaned, if all paths can be looked up. -/
theorem cleanPaths_trying (h : ∀ path ∈ paths, ∃ found, w.files.isPresent path = .ok found) :
    ∃ said, cleanPaths true paths w = (.ok (), w.sayAll said) ∧
      ∀ notice ∈ said, notice.isCleaning = true := by
  induction paths generalizing w with
  | nil => exact ⟨[], by rw [Workspace.sayAll_nil]; rfl, by simp⟩
  | cons path rest ih =>
    obtain ⟨found, hfound⟩ := h path List.mem_cons_self
    have hrest (said : List Notice) : ∀ path ∈ rest, ∃ found,
        (w.sayAll said).files.isPresent path = .ok found :=
      fun path hpath => h path (List.mem_cons_of_mem _ hpath)
    rw [cleanPaths, cleanPath, hfound]
    cases found with
    | false => exact ih fun path hpath => h path (List.mem_cons_of_mem _ hpath)
    | true =>
      obtain ⟨more, hmore, hcleaning⟩ := ih (hrest [.wouldClean path])
      refine ⟨.wouldClean path :: more, ?_, ?_⟩
      · rw [Workspace.sayAll_sayAll] at hmore
        exact hmore
      · exact List.forall_mem_cons.2 ⟨rfl, hcleaning⟩

/-! ## Loading -/

/-- A server finds the same at its manifest path in two trees. -/
def SameManifest (t t' : FileTree) (server : Server) : Prop :=
  ∀ path, server.manifestPath = .ok path → t'.isFile path = t.isFile path ∧ t'.read path = t.read path

/-- In all workspaces of a kind the same comes of a step, and the same is said: nothing that depends
on whether it is a dry run. -/
def Uniform {α : Type} (kind : Workspace → Prop) (step : Step α) : Prop :=
  ∃ outcome said, (∀ notice ∈ said, notice.carriedOut = notice) ∧
    ∀ w, kind w → step w = (outcome, w.sayAll said)

theorem uniform_loadManifest (server : String) (path : Path) (t : FileTree) :
    Uniform (fun w => w.files.read path = t.read path) (loadManifest server path) := by
  have hsame {w : Workspace} (h : w.files.read path = t.read path) :
      ManifestFile.read w.files path = ManifestFile.read t path := by
    rw [ManifestFile.read, ManifestFile.read, h]
  cases hread : ManifestFile.read t path with
  | error fault =>
    cases fault with
    | crash crash =>
      refine ⟨.error crash, [], by simp, fun w h => ?_⟩
      rw [loadManifest, hsame h, hread, Workspace.sayAll_nil]
    | failure cause =>
      refine ⟨.ok ⟨[], true⟩, [.manifestFailed server cause], by simp [Notice.carriedOut],
        fun w h => ?_⟩
      rw [loadManifest, hsame h, hread]
      rfl
  | ok fields =>
    cases htools : ManifestFile.tools? fields with
    | none =>
      refine ⟨.ok ⟨[], false⟩, [.toolsNotListed server], by simp [Notice.carriedOut],
        fun w h => ?_⟩
      rw [loadManifest, hsame h, hread]
      simp only [htools]
      rfl
    | some tools =>
      refine ⟨.ok ⟨tools.map fun tool => ⟨server, tool⟩, false⟩, [], by simp, fun w h => ?_⟩
      rw [loadManifest, hsame h, hread, Workspace.sayAll_nil]
      simp only [htools]

/-- What comes of loading a server, and what is said, depends on its manifest alone. -/
theorem uniform_loadServer (server : Server) (t : FileTree) :
    Uniform (fun w => SameManifest t w.files server) (loadServer server) := by
  cases htext : server.manifestText? with
  | none =>
    refine ⟨.ok ⟨[], false⟩, [.manifestNotSet server.slug], by simp [Notice.carriedOut],
      fun w _ => ?_⟩
    rw [loadServer, htext]
    rfl
  | some text =>
    have hpath : server.manifestPath = .ok (.ofString text) := by rw [Server.manifestPath, htext]
    cases hfile : t.isFile (.ofString text) with
    | error e =>
      refine ⟨.error (.file e), [], by simp, fun w h => ?_⟩
      rw [loadServer, htext, Workspace.sayAll_nil]
      simp only [(h _ hpath).1, hfile]
    | ok found =>
      cases found with
      | false =>
        refine ⟨.ok ⟨[], false⟩, [.manifestNotFound server.slug (.ofString text)],
          by simp [Notice.carriedOut], fun w h => ?_⟩
        rw [loadServer, htext]
        simp only [(h _ hpath).1, hfile]
        rfl
      | true =>
        obtain ⟨outcome, said, hsaid, hload⟩ := uniform_loadManifest server.slug (.ofString text) t
        refine ⟨outcome, said, hsaid, fun w h => ?_⟩
        rw [loadServer, htext]
        simp only [(h _ hpath).1, hfile]
        exact hload w (h _ hpath).2

/-- What comes of loading servers, and what is said, depends on their manifests alone. -/
theorem uniform_loadServers (servers : List Server) (t : FileTree) :
    Uniform (fun w => ∀ server ∈ servers, SameManifest t w.files server)
      (loadServers servers) := by
  induction servers with
  | nil => exact ⟨.ok ⟨[], false⟩, [], by simp, fun w _ => by rw [Workspace.sayAll_nil]; rfl⟩
  | cons server rest ih =>
    obtain ⟨first, said, hsaid, hfirst⟩ := uniform_loadServer server t
    obtain ⟨others, more, hmore, hothers⟩ := ih
    cases first with
    | error crash =>
      refine ⟨.error crash, said, hsaid, fun w h => ?_⟩
      rw [loadServers, hfirst w (h server List.mem_cons_self)]
    | ok loaded =>
      -- the files are the same after the first server, whatever was said of it
      have hrest (w : Workspace) (h : ∀ other ∈ server :: rest, SameManifest t w.files other) :
          loadServers rest (w.sayAll said) = (others, w.sayAll (said ++ more)) := by
        rw [← Workspace.sayAll_sayAll]
        exact hothers _ fun other hother => h other (List.mem_cons_of_mem _ hother)
      have hall : ∀ notice ∈ said ++ more, notice.carriedOut = notice :=
        List.forall_mem_append.2 ⟨hsaid, hmore⟩
      cases others with
      | error crash =>
        refine ⟨.error crash, said ++ more, hall, fun w h => ?_⟩
        rw [loadServers, hfirst w (h server List.mem_cons_self)]
        simp only [hrest w h]
      | ok loadedMore =>
        refine ⟨.ok ⟨loaded.definitions ++ loadedMore.definitions,
          loaded.failed || loadedMore.failed⟩, said ++ more, hall, fun w h => ?_⟩
        rw [loadServers, hfirst w (h server List.mem_cons_self)]
        simp only [hrest w h]

/-! ## Writing -/

/-- What is said of a planned file that is not written; nothing of a marker. -/
def trying : PlannedFile → Option Notice
  | .module path name _ => some (.wouldGenerate path name)
  | .marker _ => none

theorem writeAll_trying (run : CommandRun) (files : List PlannedFile) (w : Workspace) :
    run.writeAll true files w = (.ok (), w.sayAll (files.filterMap trying)) := by
  induction files generalizing w with
  | nil =>
    rw [List.filterMap_nil, Workspace.sayAll_nil]
    rfl
  | cons file rest ih =>
    cases file with
    | module path name source =>
      have hsaid : w.sayAll ((PlannedFile.module path name source :: rest).filterMap trying)
          = (w.say (.wouldGenerate path name)).sayAll (rest.filterMap trying) := by
        simp [Workspace.sayAll, Workspace.say, trying]
      rw [hsaid]
      exact ih _
    | marker directory => exact ih w

theorem crash_writePlanned {file : PlannedFile}
    (h : run.writePlanned false file w = (.error crash, w')) : ∃ e, crash = .file e := by
  cases file with
  | module path name source =>
    simp only [writePlanned, Bool.false_eq_true, if_false] at h
    split at h
    · cases h
    · rename_i e _
      cases h
      exact ⟨e, rfl⟩
  | marker directory =>
    simp only [writePlanned, Bool.false_eq_true, if_false] at h
    split at h
    · rename_i e _
      cases h
      exact ⟨e, rfl⟩
    · cases h
    · split at h
      · cases h
      · rename_i e _
        cases h
        exact ⟨e, rfl⟩

theorem crash_writeAll {dryRun : Bool} {files : List PlannedFile}
    (h : run.writeAll dryRun files w = (.error crash, w')) : ∃ e, crash = .file e := by
  cases dryRun with
  | true =>
    rw [writeAll_trying] at h
    cases h
  | false =>
    induction files generalizing w with
    | nil => cases h
    | cons file rest ih =>
      rw [writeAll] at h
      split at h
      · exact ih h
      · rename_i hfile
        cases h
        exact crash_writePlanned hfile

theorem notices_writePlanned {file : PlannedFile}
    (h : run.writePlanned false file w = (.ok (), w')) :
    w'.notices = w.notices ++ ((trying file).map Notice.carriedOut).toList := by
  cases file with
  | module path name source =>
    simp only [writePlanned, Bool.false_eq_true, if_false] at h
    split at h
    · cases h
      rfl
    · cases h
  | marker directory =>
    simp only [writePlanned, Bool.false_eq_true, if_false] at h
    split at h
    · cases h
    · cases h
      simp [trying]
    · split at h
      · cases h
        simp [trying]
      · cases h

/-- Writing says of each file what trying it has foretold. -/
theorem notices_writeAll {files : List PlannedFile}
    (h : run.writeAll false files w = (.ok (), w')) :
    w'.notices = w.notices ++ (files.filterMap trying).map Notice.carriedOut := by
  induction files generalizing w with
  | nil =>
    cases h
    simp
  | cons file rest ih =>
    obtain ⟨between, hfile, hrest⟩ := writeAll_cons h
    rw [ih hrest, notices_writePlanned hfile, List.append_assoc]
    cases htrying : trying file <;> simp [htrying]

/-! ## The command -/

/-- What cleaning for some servers takes away can be looked up, and no manifest of theirs is found
through it. -/
structure CleansAside (run : CommandRun) (servers : List Server) (t : FileTree) : Prop where
  found : ∀ path ∈ cleanTargets run.project.settings.generated servers,
    ∃ found, t.isPresent path = .ok found
  aside : ∀ server ∈ servers, ∀ path, server.manifestPath = .ok path →
    ¬t.Meets (fun k => ∃ target ∈ cleanTargets run.project.settings.generated servers,
      t.Under target k) path

variable {options : GenerateOptions} {wanted : List String} {said said' : List Notice}
  {dry real : Workspace}

/-- Both runs say one and the same thing. -/
theorem foretold_say {notice : Notice} (h : notice.carriedOut = notice) (w : Workspace)
    (outcome : Except Crash ExitStatus) :
    Foretold w (outcome, w.say notice) (outcome, w.say notice) :=
  ⟨rfl, [notice], [notice], rfl, rfl, Notice.foretell_self (by simpa using h)⟩

/-- The same last word ends both runs. -/
theorem foretold_last {last : Notice} (hlast : last.carriedOut = last)
    (outcome : Except Crash ExitStatus) (hdry : dry.notices = w.notices ++ said)
    (hreal : real.notices = w.notices ++ said') (hsaid : Notice.Foretell said said') :
    Foretold w (outcome, dry.say last) (outcome, real.say last) := by
  have hsame : Notice.Foretell [last] [last] := Notice.foretell_self (by simpa using hlast)
  refine ⟨rfl, said ++ [last], said' ++ [last], ?_, ?_, hsaid.append hsame⟩
  · rw [← List.append_assoc, ← hdry]
    rfl
  · rw [← List.append_assoc, ← hreal]
    rfl

theorem foretold_carryOut {failed : Bool} {plan : Plan}
    (hdry : dry.notices = w.notices ++ said) (hreal : real.notices = w.notices ++ said')
    (hsaid : Notice.Foretell said said')
    (h : ∀ e, (run.carryOut false failed plan real).1 ≠ .error (.file e)) :
    Foretold w (run.carryOut true failed plan dry) (run.carryOut false failed plan real) := by
  rcases hwrite : run.writeAll false plan.files real with ⟨crash | done, after⟩
  · obtain ⟨e, rfl⟩ := crash_writeAll hwrite
    exact absurd (by rw [carryOut, hwrite]) (h e)
  · have hafter : after.notices
        = w.notices ++ (said' ++ (plan.files.filterMap trying).map Notice.carriedOut) := by
      rw [notices_writeAll hwrite, hreal, List.append_assoc]
    have hbefore : (dry.sayAll (plan.files.filterMap trying)).notices
        = w.notices ++ (said ++ plan.files.filterMap trying) := by
      rw [Workspace.sayAll, hdry, List.append_assoc]
    have hall := hsaid.append (Notice.foretell_carriedOut (plan.files.filterMap trying))
    rw [carryOut, carryOut, writeAll_trying, hwrite]
    dsimp only
    cases plan.collision with
    | some collision => exact foretold_last rfl _ hbefore hafter hall
    | none => exact foretold_last rfl _ hbefore hafter hall

theorem sameManifest_cleanPaths
    (haside : ∀ path, server.manifestPath = .ok path →
      ¬w.files.Meets (fun k => ∃ target ∈ paths, w.files.Under target k) path)
    (h : cleanPaths false paths w = (.ok (), w')) : SameManifest w.files w'.files server := by
  obtain ⟨hthinned, -⟩ := thinned_cleanPaths h
  intro path hpath
  exact ⟨FileTree.isFile_congr hthinned.here (fun _ => hthinned.same) (haside path hpath),
    FileTree.read_congr hthinned.here (fun _ => hthinned.same) (haside path hpath)⟩

/-- A dry run of a generation for servers foretells one that ends without an obstacle. -/
theorem foretold_generateFor {clean failOnCollision : Bool}
    (h : ∀ e, (run.generateFor ⟨false, clean, failOnCollision⟩ servers w).1 ≠ .error (.file e))
    (hclean : clean = true → run.CleansAside servers w.files) :
    Foretold w (run.generateFor ⟨true, clean, failOnCollision⟩ servers w)
      (run.generateFor ⟨false, clean, failOnCollision⟩ servers w) := by
  rw [generateFor] at h ⊢
  rw [generateFor]
  dsimp only at h ⊢
  rcases hreal : cleanPaths false
    (if clean then cleanTargets run.project.settings.generated servers else []) w with
      ⟨crash | done, cleaned⟩
  · obtain ⟨e, rfl⟩ := crash_cleanPaths hreal
    rw [hreal] at h
    exact absurd rfl (h e)
  · obtain ⟨-, said', hsaid', hcleaning'⟩ := thinned_cleanPaths hreal
    have hdry : ∃ said, cleanPaths true
        (if clean then cleanTargets run.project.settings.generated servers else []) w
          = (.ok (), w.sayAll said) ∧ ∀ notice ∈ said, notice.isCleaning = true := by
      refine cleanPaths_trying fun path hpath => ?_
      split at hpath
      · rename_i hclean'
        exact (hclean hclean').found path hpath
      · cases hpath
    have hsame : ∀ server ∈ servers, SameManifest w.files cleaned.files server := by
      intro server hserver
      split at hreal
      · rename_i hclean'
        exact sameManifest_cleanPaths ((hclean hclean').aside server hserver) hreal
      · cases hreal
        exact fun _ _ => ⟨rfl, rfl⟩
    obtain ⟨said, hdry, hcleaning⟩ := hdry
    obtain ⟨outcome, more, hmore, hload⟩ := uniform_loadServers servers w.files
    -- both runs have cleaned in their own way, and from here on load the same
    have hloadDry := hload (w.sayAll said) fun _ _ _ _ => ⟨rfl, rfl⟩
    have hloadReal := hload cleaned hsame
    have hsaid : Notice.Foretell (said ++ more) (said' ++ more) :=
      (Notice.foretell_cleaning hcleaning hcleaning').append (Notice.foretell_self hmore)
    have hnotices : ((w.sayAll said).sayAll more).notices = w.notices ++ (said ++ more) := by
      rw [Workspace.sayAll_sayAll]
      rfl
    have hnotices' : (cleaned.sayAll more).notices = w.notices ++ (said' ++ more) := by
      rw [Workspace.sayAll, hsaid', List.append_assoc]
    rw [hreal] at h
    rw [hdry]
    dsimp only at h ⊢
    rw [hloadReal] at h
    rw [hloadDry, hloadReal]
    cases outcome with
    | error crash => exact ⟨rfl, said ++ more, said' ++ more, hnotices, hnotices', hsaid⟩
    | ok loaded => exact foretold_carryOut hnotices hnotices' hsaid h

/-- Where no obstacle is reported, and no NUL has made it crash, a step has met no obstacle. -/
theorem unobstructed_of_reportingObstacles {step : Step ExitStatus}
    (hnul : (reportingObstacles step w).1 ≠ .error (.file .embeddedNul))
    (hmet : ∀ e, (reportingObstacles step w).2.notices.getLast? ≠ some (.notGenerated e)) :
    ∀ e, (step w).1 ≠ .error (.file e) := by
  intro e he
  have hstep : step w = (.error (.file e), (step w).2) := Prod.ext he rfl
  by_cases hembedded : e = .embeddedNul
  · rw [reportingObstacles, hstep, hembedded] at hnul
    exact hnul rfl
  · have hreport : reportingObstacles step w
        = (.ok .failure, (step w).2.say (.notGenerated e)) := by
      rw [reportingObstacles, hstep]
      cases e with
      | embeddedNul => exact absurd rfl hembedded
      | linkedTree => rfl
      | obstacle what path target => rfl
    apply hmet e
    rw [hreport, Workspace.say]
    simp

theorem reportingObstacles_of_unobstructed {step : Step ExitStatus}
    (h : ∀ e, (step w).1 ≠ .error (.file e)) : reportingObstacles step w = step w := by
  rw [reportingObstacles]
  split
  · rename_i hstep
    exact absurd (congrArg Prod.fst hstep) (h _)
  · rename_i e _ _ hstep
    exact absurd (congrArg Prod.fst hstep) (h e)
  · rfl

/-- A dry run of a generation says what the generation would say and ends as it would, unless the
generation would meet an obstacle, crash for a NUL in the path of a file, or clean what it cannot look
up or what its manifests are found through. -/
theorem foretold_generate (run : CommandRun) (wanted : List String) {clean failOnCollision : Bool}
    (hnul : (run.generate wanted ⟨false, clean, failOnCollision⟩ w).1
      ≠ .error (.file .embeddedNul))
    (hmet : ∀ e, (run.generate wanted ⟨false, clean, failOnCollision⟩ w).2.notices.getLast?
      ≠ some (.notGenerated e))
    (hclean : clean = true → run.CleansAside (run.selected wanted) w.files) :
    Foretold w (run.generate wanted ⟨true, clean, failOnCollision⟩ w)
      (run.generate wanted ⟨false, clean, failOnCollision⟩ w) := by
  cases hselect : run.project.settings.selectServers wanted with
  | error fault =>
    -- nothing has been asked of the files yet
    rw [generate, generate, withServers, withServers, hselect]
    cases fault with
    | crash crash => exact ⟨rfl, [], [], by simp, by simp, rfl⟩
    | failure cause => exact foretold_say rfl w _
  | ok servers =>
    by_cases hsome : servers = []
    · rw [generate, generate, withServers, withServers, hselect, hsome]
      exact foretold_say rfl w _
    · have hselected : run.selected wanted = servers := by
        rw [selected, hselect]
        rfl
      rw [generate_eq hselect hsome] at hnul hmet ⊢
      rw [generate_eq hselect hsome]
      have hreal := unobstructed_of_reportingObstacles hnul hmet
      have hforetold := foretold_generateFor hreal (hselected ▸ hclean)
      rw [reportingObstacles_of_unobstructed hreal,
        reportingObstacles_of_unobstructed (hforetold.outcome ▸ hreal)]
      exact hforetold

/-! ## Runs that clean -/

theorem selectServers_crm : crm.project.settings.selectServers [] = .ok [manifestServer] :=
  Registry.selectServers_oneServer "crm" "crm.json"

/-- A workspace with some files, and nothing else. -/
def workspaceOf (entries : Entries Location FileEntry) : Workspace :=
  ⟨⟨entries, []⟩, .ofScript none, []⟩

/-- A manifest that lists one tool. -/
def searchManifest : FileEntry :=
  .file (Text.Utf8.encode (listing "search"))

/-- The manifest of the server and a package that was generated before. -/
def generatedWorkspace : Workspace :=
  workspaceOf [(["crm.json"], searchManifest), (["generated_tools"], .directory),
    (["generated_tools", "Crm"], .directory), (["generated_tools", "Crm", "old.py"], .file [])]

theorem cleansAside_generatedWorkspace :
    crm.CleansAside (crm.selected []) generatedWorkspace.files where
  found path hpath := by
    have hall : ∀ path ∈ cleanTargets crm.project.settings.generated (crm.selected []),
        generatedWorkspace.files.isPresent path = .ok true ∨
          generatedWorkspace.files.isPresent path = .ok false := by decide +kernel
    exact (hall path hpath).elim (⟨true, ·⟩) (⟨false, ·⟩)
  aside server hserver path hpath hmeets := by
    have hmanifest : ∀ server ∈ crm.selected [],
        server.manifestPath = .ok (.ofString "crm.json") := by decide +kernel
    rw [hmanifest server hserver, Except.ok.injEq] at hpath
    subst hpath
    have hway : generatedWorkspace.files.way (.ofString "crm.json") = [[], ["crm.json"]] := by
      decide +kernel
    have htargets : ∀ target ∈ cleanTargets crm.project.settings.generated (crm.selected []),
        (generatedWorkspace.files.locate false target).map List.head?
          = .ok (some "generated_tools") := by decide +kernel
    have hlinkless : generatedWorkspace.files.Linkless
        (generatedWorkspace.files.way (.ofString "crm.json")) := by
      rw [hway]
      exact List.forall_mem_cons.2
        ⟨nofun, List.forall_mem_cons.2 ⟨nofun, List.forall_mem_nil _⟩⟩
    obtain ⟨k, hk, target, htarget, l, hlocate, -, rest, hbelow⟩ :=
      FileTree.exists_of_meets hmeets hlinkless
    have hhead := htargets target htarget
    rw [hlocate, Except.map, Except.ok.injEq, List.head?_eq_some_iff] at hhead
    obtain ⟨more, rfl⟩ := hhead
    rw [hway, ← hbelow] at hk
    simp at hk

/-- The package is cleaned, and the manifest is not in it. -/
theorem foretold_generate_crm :
    Foretold generatedWorkspace (crm.generate [] ⟨true, true, false⟩ generatedWorkspace)
        (crm.generate [] ⟨false, true, false⟩ generatedWorkspace) ∧
      (crm.generate [] ⟨false, true, false⟩ generatedWorkspace).1 = .ok .success := by
  have hsuccess : (crm.generate [] ⟨false, true, false⟩ generatedWorkspace).1 = .ok .success := by
    decide +kernel
  have hlast : (crm.generate [] ⟨false, true, false⟩ generatedWorkspace).2.notices.getLast?.map
      Notice.tone = some .good := by decide +kernel
  refine ⟨foretold_generate crm [] (by rw [hsuccess]; simp) (fun e he => ?_) fun _ => ?_, hsuccess⟩
  · rw [he] at hlast
    cases hlast
  · exact cleansAside_generatedWorkspace

end CommandRun
end ToolBindings
