import ToolBindings.Proofs.Command.Truncation
import ToolBindings.Proofs.FileTree.Gone
import ToolBindings.Proofs.Server.Resolution

/-!
# Pruning after a discovery

What a discovery with pruning makes of the files is told in two steps. The walk over the selected
servers leaves every place as it was, but for new directories and for the manifests that it writes
(`filed_eachServer`). Pruning then removes files at manifest paths of servers that were not selected,
by path and not by file: a manifest of a selected server is lost if its own path comes to the place
of a path that is pruned, and it is kept otherwise (`pruned_discover`).
-/

namespace ToolBindings
namespace CommandRun

open FileTree (Grows OnlyDirectories Removed)

variable {run : CommandRun} {server : Server} {servers selected : List Server} {w : Workspace}

/-! ## What the walk files -/

/-- At a stage the manifest of its server was put at a place, to which the path of the manifest
led. -/
structure Stage.Files (run : CommandRun) (stage : Stage) (l : Location)
    (entry : Option FileEntry) : Prop where
  well : stage.failed = false
  manifest : ∃ path tools, stage.server.manifestPath = .ok path ∧
    (∃ c, (run.project.listTools stage.server c).1 = .ok tools) ∧
    entry = some (.file (Text.Utf8.encode (run.manifestText stage.server tools))) ∧
    ∃ made directory, Grows made stage.after.files ∧
      made.Leads (made.start path) path.parent.names directory ∧
      made.at? directory = some .directory ∧ l = directory ++ [path.lastName]
  stood : stage.after.files.at? l = entry

/-- A tree after stages: every place is what it was, or a new directory, or it holds the manifest of
a server that was filed there. A place where a manifest was filed holds one in the end. If a manifest
was begun that could not be finished, its empty file was left at a place where nothing was. -/
structure Filed (run : CommandRun) (stages : List Stage) (left : Option Location)
    (t t' : FileTree) : Prop where
  at? : ∀ l, t'.at? l = t.at? l ∨ (t.at? l = none ∧ t'.at? l = some .directory) ∨
    (∃ stage ∈ stages, stage.Files run l (t'.at? l)) ∨
    (left = some l ∧ t.at? l = none ∧ t'.at? l = some (.file []))
  filed : ∀ stage ∈ stages, stage.failed = false → ∃ l entry, stage.Files run l entry ∧
    ∃ last ∈ stages, last.Files run l (t'.at? l)

theorem Stage.Files.entry_ne {stage : Stage} {l : Location} {entry : Option FileEntry}
    (h : stage.Files run l entry) : entry ≠ none ∧ entry ≠ some .directory := by
  obtain ⟨path, tools, -, -, rfl, -⟩ := h.manifest
  simp

theorem Filed.of_onlyDirectories {stages : List Stage} {t t' : FileTree}
    (h : OnlyDirectories t t') (hfailed : ∀ stage ∈ stages, stage.failed = true) :
    Filed run stages none t t' := by
  refine ⟨fun l => (h.at? l).imp_right Or.inl, fun stage hmem hwell => ?_⟩
  rw [hfailed stage hmem] at hwell
  cases hwell

/-- One stage after the other. -/
theorem Filed.append {before after : List Stage} {left : Option Location} {t t' t'' : FileTree}
    (h : Filed run before none t t') (h' : Filed run after left t' t'') :
    Filed run (before ++ after) left t t'' := by
  -- where a manifest was filed first, it stays or another one takes its place
  have hlater {l : Location} {stage : Stage} (hmem : stage ∈ before)
      (hfiles : stage.Files run l (t'.at? l)) :
      ∃ last ∈ before ++ after, last.Files run l (t''.at? l) := by
    rcases h'.at? l with hsame | ⟨hnone, -⟩ | ⟨last, hlast, hlastFiles⟩ | ⟨-, hnone, -⟩
    · exact ⟨stage, List.mem_append_left after hmem, hsame ▸ hfiles⟩
    · exact absurd hnone hfiles.entry_ne.1
    · exact ⟨last, List.mem_append_right before hlast, hlastFiles⟩
    · exact absurd hnone hfiles.entry_ne.1
  refine ⟨fun l => ?_, fun stage hmem hwell => ?_⟩
  · rcases h.at? l with hsame | ⟨hnone, hdirectory⟩ | ⟨stage, hmem, hfiles⟩ | ⟨hnot, -⟩
    · rw [← hsame]
      exact (h'.at? l).imp_right (Or.imp_right (Or.imp_left fun ⟨last, hlast, hfiles⟩ =>
        ⟨last, List.mem_append_right before hlast, hfiles⟩))
    · rcases h'.at? l with hsame' | ⟨hnone', -⟩ | ⟨last, hlast, hfiles⟩ | ⟨-, hnone', -⟩
      · exact Or.inr (Or.inl ⟨hnone, hsame'.trans hdirectory⟩)
      · rw [hdirectory] at hnone'
        cases hnone'
      · exact Or.inr (Or.inr (Or.inl ⟨last, List.mem_append_right before hlast, hfiles⟩))
      · rw [hdirectory] at hnone'
        cases hnone'
    · exact Or.inr (Or.inr (Or.inl (hlater hmem hfiles)))
    · cases hnot
  · rcases List.mem_append.1 hmem with hmem | hmem
    · obtain ⟨l, entry, hfiles, last, hlast, hlastFiles⟩ := h.filed stage hmem hwell
      exact ⟨l, entry, hfiles, hlater hlast hlastFiles⟩
    · obtain ⟨l, entry, hfiles, last, hlast, hlastFiles⟩ := h'.filed stage hmem hwell
      exact ⟨l, entry, hfiles, last, List.mem_append_right before hlast, hlastFiles⟩

/-- What a visit has done to the files: one that succeeds has written the manifest of the tools that
the server listed, and one that fails has made directories at most. A crash may have left an empty
file as well. -/
def VisitWrote (run : CommandRun) (server : Server) (w : Workspace) :
    Except Fault Unit × Workspace → Prop
  | (.ok (), after) => ∃ path tools, server.manifestPath = .ok path ∧
      (run.project.listTools server w.connection).1 = .ok tools ∧
      w.files.writeAtomic run.tag path (run.manifestText server tools) = (after.files, .ok ())
  | (.error (.failure _), after) => OnlyDirectories w.files after.files
  | (.error (.crash _), after) => ∃ left, Filed run [] left w.files after.files

theorem visitWrote_of_onlyDirectories {fault : Fault} {after : Workspace}
    (h : OnlyDirectories w.files after.files) : run.VisitWrote server w (.error fault, after) := by
  cases fault with
  | failure cause => exact h
  | crash crash => exact ⟨none, .of_onlyDirectories h (List.forall_mem_nil _)⟩

theorem visitWrote_discoverServer (run : CommandRun) (server : Server) (w : Workspace) :
    run.VisitWrote server w (run.discoverServer false server w) := by
  cases hpath : server.manifestPath with
  | error cause =>
    rw [discoverServer_of_path_error false hpath]
    exact visitWrote_of_onlyDirectories (.refl _)
  | ok path =>
    rcases hlist : run.project.listTools server w.connection with ⟨fault | tools, c⟩
    · rw [discoverServer_of_fault false hpath hlist]
      exact visitWrote_of_onlyDirectories (.refl _)
    · rw [discoverServer_of_tools false hpath hlist, if_neg Bool.false_ne_true]
      -- an attempt to write that does not succeed has made directories
      have hattempt {files : FileTree} {e : FileError} (h : OnlyDirectories w.files files) :
          run.VisitWrote server w
            (manifestWritten path server { w with connection := c } (files, .error e)) := by
        obtain ⟨fault, hfault⟩ := manifestWritten_error path server { w with connection := c } files e
        rw [hfault]
        exact visitWrote_of_onlyDirectories h
      cases hwritable : tools.all ManifestTool.isWritable with
      | true =>
        rw [writeManifest_of_writable hwritable]
        rcases hwritten : w.files.writeAtomic run.tag path (run.manifestText server tools) with
          ⟨files, e | done⟩
        · exact hattempt (FileTree.writeAtomic_error hwritten)
        · exact ⟨path, tools, hpath, by rw [hlist], hwritten⟩
      | false =>
        rw [writeManifest_of_not_writable hwritable]
        rcases hbegun : w.files.writeAborted run.tag path with ⟨files, e | done⟩
        · exact hattempt (FileTree.writeAborted_error hbegun)
        · obtain ⟨-, l, hnone, hempty, hothers⟩ := FileTree.writeAborted_ok hbegun
          refine ⟨some l, fun k => ?_, List.forall_mem_nil _⟩
          by_cases hk : k = l
          · rw [hk]
            exact Or.inr (Or.inr (Or.inr ⟨rfl, hnone, hempty⟩))
          · exact (hothers k hk).imp_right Or.inl

/-- What one stage makes of a tree: directories, or the manifest of its server as well. -/
theorem filed_stage {stage : Stage}
    (h : stage? (run.discoverServer false) .discoverFailed server w = some stage) :
    Filed run [stage] none w.files stage.after.files := by
  have hserver := server_of_stage? h
  have hvisit := visitWrote_discoverServer run server w
  rw [stage?] at h
  split at h
  · rename_i after hdone
    cases h
    rw [hdone] at hvisit
    obtain ⟨path, tools, hpath, hlist, hwritten⟩ := hvisit
    obtain ⟨-, made, directory, hmade, hgrows, hleads, hdirectory, hfile, hothers⟩ :=
      FileTree.writeAtomic_ok hwritten
    have hfiles : Stage.Files run ⟨server, false, after⟩ (directory ++ [path.lastName])
        (after.files.at? (directory ++ [path.lastName])) :=
      ⟨rfl, ⟨path, tools, hpath, ⟨_, hlist⟩, hfile, made, directory, hgrows, hleads, hdirectory,
        rfl⟩, rfl⟩
    -- nothing but directories is new beside the manifest
    refine ⟨fun l => ?_, fun stage hmem _ => ?_⟩
    · by_cases hl : l = directory ++ [path.lastName]
      · rw [hl]
        exact Or.inr (Or.inr (Or.inl ⟨_, List.mem_singleton_self _, hfiles⟩))
      · exact (hothers l hl).imp_right Or.inl
    · rw [List.mem_singleton] at hmem
      exact ⟨_, _, hmem ▸ hfiles, _, List.mem_singleton_self _, hfiles⟩
  · rename_i cause after hfailed
    cases h
    rw [hfailed] at hvisit
    have hdirectories : OnlyDirectories w.files after.files := hvisit
    refine .of_onlyDirectories hdirectories fun stage hmem => ?_
    rw [List.mem_singleton.1 hmem]
  · cases h

theorem filed_of_no_stage
    (h : stage? (run.discoverServer false) .discoverFailed server w = none) :
    ∃ left, Filed run [] left w.files (run.discoverServer false server w).2.files := by
  have hvisit := visitWrote_discoverServer run server w
  rw [stage?] at h
  split at h
  · cases h
  · cases h
  · rename_i crash after hcrash
    rw [hcrash] at hvisit ⊢
    exact hvisit

theorem filed_eachServer (run : CommandRun) (servers : List Server) (w : Workspace) :
    ∃ left,
      ((∃ visits, (eachServer (run.discoverServer false) .discoverFailed false servers w).1
        = .ok visits) → left = none) ∧
      Filed run (stages (run.discoverServer false) .discoverFailed servers w) left w.files
        (eachServer (run.discoverServer false) .discoverFailed false servers w).2.files := by
  induction servers generalizing w with
  | nil =>
    exact ⟨none, fun _ => rfl, .of_onlyDirectories (.refl w.files) (List.forall_mem_nil _)⟩
  | cons server rest ih =>
    cases hstage : stage? (run.discoverServer false) .discoverFailed server w with
    | none =>
      obtain ⟨crash, hcrash⟩ := eachServer_of_no_stage hstage rest
      obtain ⟨left, hfiled⟩ := filed_of_no_stage hstage
      rw [stages, hstage, hcrash]
      exact ⟨left, by simp, hfiled⟩
    | some stage =>
      obtain ⟨left, hleft, hfiled⟩ := ih stage.after
      obtain ⟨hafter, hgoesOn⟩ := eachServer_goesOn hstage rest
      rw [stages, hstage, hafter]
      refine ⟨left, ?_, (filed_stage hstage).append hfiled⟩
      rintro ⟨visits, hvisits⟩
      obtain ⟨more, hmore, -⟩ := hgoesOn visits hvisits
      exact hleft ⟨more, hmore⟩

/-! ## What pruning removes -/

/-- The paths that were pruned, in order: what stood there is gone, and nothing else. -/
structure Prunings (w after : Workspace) (pruned : List Path) : Prop where
  removed : Removed pruned w.files after.files
  connection : after.connection = w.connection
  notices : after.notices = w.notices ++ pruned.map .pruned
  files : ∀ q ∈ pruned, w.files.isFile q = .ok true

theorem Prunings.refl (w : Workspace) : Prunings w w [] :=
  ⟨.refl w.files, rfl, by simp, List.forall_mem_nil _⟩

theorem Prunings.trans {between after : Workspace} {first more : List Path}
    (h : Prunings w between first) (h' : Prunings between after more) :
    Prunings w after (first ++ more) where
  removed := h.removed.trans h'.removed
  connection := h'.connection.trans h.connection
  notices := by rw [h'.notices, h.notices, List.map_append, List.append_assoc]
  files q hq := by
    rcases List.mem_append.1 hq with hq | hq
    · exact h.files q hq
    · exact h.removed.isFile (h'.files q hq)

theorem prunings_pruneManifest (path : Path) (w : Workspace) :
    ∃ pruned, Prunings w (pruneManifest false path w).2 pruned ∧ (∀ q ∈ pruned, q = path) ∧
      ((pruneManifest false path w).1 = .ok () →
        (pruneManifest false path w).2.files.isFile path ≠ .ok true) := by
  rw [pruneManifest]
  rcases hfile : w.files.isFile path with e | _ | _
  · exact ⟨[], .refl w, List.forall_mem_nil _, fun hok => by cases hok⟩
  · exact ⟨[], .refl w, List.forall_mem_nil _, fun _ => by simp [hfile]⟩
  · dsimp only
    rw [if_neg Bool.false_ne_true]
    rcases hremoved : w.files.removeFile path with e | files
    · exact ⟨[], .refl w, List.forall_mem_nil _, fun hok => by cases hok⟩
    · have hgone := Removed.of_removeFile hremoved
      refine ⟨[path], ⟨hgone, rfl, rfl, ?_⟩, by simp, fun _ => ?_⟩
      · rintro q hq
        rw [List.mem_singleton.1 hq, hfile]
      · exact hgone.not_isFile (List.mem_singleton_self path)

theorem prunings_prune (selected servers : List Server) (w : Workspace) :
    ∃ pruned, Prunings w (prune false selected servers w).2 pruned ∧
      (∀ q ∈ pruned, Unselected servers selected q) ∧
      ((prune false selected servers w).1 = .ok () → ∀ q, Unselected servers selected q →
        (prune false selected servers w).2.files.isFile q ≠ .ok true) := by
  induction servers generalizing w with
  | nil => exact ⟨[], .refl w, List.forall_mem_nil _, fun _ q hq => by simp [Unselected] at hq⟩
  | cons server rest ih =>
    rcases prune_cons false selected server rest with ⟨hpaths, hstep⟩ | ⟨path, hpaths, hstep⟩
    · simp only [hpaths, hstep]
      exact ih w
    · simp only [hpaths, hstep]
      obtain ⟨first, hfirst, honly, hgone⟩ := prunings_pruneManifest path w
      rcases hmanifest : pruneManifest false path w with ⟨crash | done, between⟩
      · rw [hmanifest] at hfirst
        exact ⟨first, hfirst, fun q hq => Or.inl (honly q hq), by simp⟩
      · rw [hmanifest] at hfirst hgone
        obtain ⟨more, hmore, hunselected, hrest⟩ := ih between
        refine ⟨first ++ more, hfirst.trans hmore, fun q hq => ?_, fun hok q hq => ?_⟩
        · rw [List.mem_append] at hq
          exact hq.imp (honly q) (hunselected q)
        · rcases hq with rfl | hlater
          · -- the file was gone before the others were pruned
            exact fun hfile => hgone rfl (hmore.removed.isFile hfile)
          · exact hrest hok q hlater

/-! ## Discovery with pruning -/

/-- What a discovery with pruning comes to after one without, where these paths are pruned. -/
structure PrunedAfter (run : CommandRun) (wanted : List String) (w : Workspace)
    (walked after : Except Crash ExitStatus × Workspace) (pruned : List Path) : Prop where
  /-- Before anything is pruned, every place is what it was, or a new directory, or it holds a
  manifest of a selected server that was written. Only a crash leaves an unfinished one behind. -/
  filed : ∃ left, ((∃ status, walked.1 = .ok status) → left = none) ∧
    Filed run (stages (run.discoverServer false) .discoverFailed (run.selected wanted) w) left
      w.files walked.2.files
  prunings : Prunings walked.2 after.2 pruned
  unselected : ∀ q ∈ pruned, Unselected (run.project.settings.allServers.toOption.getD [])
    (run.selected wanted) q
  /-- A path, be it that of a selected server, still leads to its file exactly if it came to no place
  of a pruned path. -/
  kept : ∀ p octets, after.2.files.read p = .ok octets ↔
    walked.2.files.read p = .ok octets ∧
      ¬walked.2.files.Meets (walked.2.files.PlacesOf pruned) p
  /-- A command that returns has left no file at the paths of servers that were not selected. -/
  gone : ∀ status, after.1 = .ok status → run.selected wanted ≠ [] →
    ∀ q, Unselected (run.project.settings.allServers.toOption.getD []) (run.selected wanted) q →
      after.2.files.isFile q ≠ .ok true
  status : ∀ status, after.1 = .ok status → walked.1 = .ok status

theorem filed_discover (run : CommandRun) (wanted : List String) (w : Workspace) :
    ∃ left,
      ((∃ status, (run.discover wanted ⟨false, false, false⟩ w).1 = .ok status) → left = none) ∧
      Filed run (stages (run.discoverServer false) .discoverFailed (run.selected wanted) w) left
        w.files (run.discover wanted ⟨false, false, false⟩ w).2.files := by
  rw [discover_eq]
  by_cases hnone : run.selected wanted = []
  · obtain ⟨outcome, hfiles, houtcome⟩ := withServers_of_none hnone "discover" w
    rw [houtcome, hnone, hfiles]
    exact ⟨none, fun _ => rfl, .of_onlyDirectories (.refl w.files) (List.forall_mem_nil _)⟩
  · rw [withServers_of_some hnone]
    obtain ⟨left, hleft, hfiled⟩ := filed_eachServer run (run.selected wanted) w
    refine ⟨left, ?_, hfiled⟩
    rintro ⟨status, hstatus⟩
    rcases hvisits : (eachServer (run.discoverServer false) .discoverFailed false
      (run.selected wanted) w).1 with crash | visits
    · rw [concluding, hvisits] at hstatus
      cases hstatus
    · exact hleft ⟨visits, hvisits⟩

/-- A discovery with pruning of some servers ends like the one without, or it prunes after it. -/
theorem discover_prune {wanted : List String} (hsome : run.selected wanted ≠ []) (w : Workspace) :
    run.discover wanted ⟨false, true, false⟩ w =
      match run.discover wanted ⟨false, false, false⟩ w with
      | (.error crash, walked) => (.error crash, walked)
      | (.ok status, walked) =>
        match prune false (run.selected wanted)
          (run.project.settings.allServers.toOption.getD []) walked with
        | (.error crash, after) => (.error crash, after)
        | (.ok (), after) => (.ok status, after) := by
  have hvisit : ∀ server ∈ run.selected wanted, ∀ w : Workspace,
      w.Continues (run.discoverServer false server w).2 :=
    fun server _ => run.continues_discoverServer false server
  have hstaged := staged_eachServer .discoverFailed hvisit w
  rw [discover_eq, discover, withServers_of_some hsome, withServers_of_some hsome]
  rcases hvisits : eachServer (run.discoverServer false) .discoverFailed false
    (run.selected wanted) w with ⟨crash | visits, walked⟩
  · rfl
  · -- a walk that goes on is never stopped
    have hgoesOn : visits ≠ .stopped := by
      obtain ⟨-, -, rfl⟩ := hstaged.complete visits (by rw [hvisits])
      split <;> simp
    simp only [concluding, Except.map, afterDiscovery, hgoesOn, ne_eq, not_false_eq_true, and_self,
      if_true]
    rcases prune false (run.selected wanted) (run.project.settings.allServers.toOption.getD []) walked
      with ⟨crash | done, after⟩ <;> rfl

/-- However servers share manifests, and whatever links there are: a discovery with pruning first does
what one without does, and then removes the files at manifest paths of servers that were not
selected. A selected server loses its manifest exactly if its path comes to one of these places. -/
theorem pruned_discover (run : CommandRun) (wanted : List String) (w : Workspace) :
    ∃ pruned, run.PrunedAfter wanted w (run.discover wanted ⟨false, false, false⟩ w)
      (run.discover wanted ⟨false, true, false⟩ w) pruned := by
  have hfiled := filed_discover run wanted w
  by_cases hnone : run.selected wanted = []
  · obtain ⟨outcome, -, houtcome⟩ := withServers_of_none hnone "discover" w
    have hsame : run.discover wanted ⟨false, true, false⟩ w
        = run.discover wanted ⟨false, false, false⟩ w := (houtcome _).trans (houtcome _).symm
    rw [hsame]
    exact ⟨[], hfiled, .refl _, List.forall_mem_nil _, (Removed.refl _).read_iff,
      fun _ _ h => absurd hnone h, fun _ h => h⟩
  · rw [discover_prune hnone]
    rcases hwalk : run.discover wanted ⟨false, false, false⟩ w with ⟨crash | status, walked⟩
    · rw [hwalk] at hfiled
      exact ⟨[], hfiled, .refl _, List.forall_mem_nil _, (Removed.refl _).read_iff, nofun, nofun⟩
    · rw [hwalk] at hfiled
      obtain ⟨pruned, hprunings, hunselected, hgone⟩ := prunings_prune (run.selected wanted)
        (run.project.settings.allServers.toOption.getD []) walked
      refine ⟨pruned, ?_⟩
      dsimp only
      rcases hprune : prune false (run.selected wanted)
        (run.project.settings.allServers.toOption.getD []) walked with ⟨crash | done, after⟩
      · rw [hprune] at hprunings
        exact ⟨hfiled, hprunings, hunselected, hprunings.removed.read_iff, nofun, nofun⟩
      · rw [hprune] at hprunings hgone
        exact ⟨hfiled, hprunings, hunselected, hprunings.removed.read_iff,
          fun _ _ _ => hgone rfl, fun _ h => h⟩

/-! ## A shared manifest -/

/-- Two servers have the same manifest. The first one is discovered, and what has just been written
for it is pruned as the manifest of the other. -/
theorem pruned_sharedManifest :
    let run := twoServers "m.json" "m.json"
    let w := afterReply noTools
    (run.discover ["crm"] ⟨false, false, false⟩ w).2.files.isFile (.ofString "m.json") = .ok true ∧
      (run.discover ["crm"] ⟨false, true, false⟩ w).1 = .ok .success ∧
      (run.discover ["crm"] ⟨false, true, false⟩ w).2.files.isFile (.ofString "m.json")
        = .ok false := by
  intro run w
  have hmem : plainServer "crm" "https://crm.example/mcp" "m.json" ∈ bothServers "m.json" "m.json" :=
    .head _
  have hsingle := Settings.selectServers_singleton (selectServers_twoServers "m.json" "m.json") hmem
  have hselect : run.project.settings.selectServers ["crm"]
      = .ok [plainServer "crm" "https://crm.example/mcp" "m.json"] := hsingle
  simp only [discover, withServers, hselect, afterDiscovery, run, allServers_twoServers]
  refine ⟨?_, ?_, ?_⟩
  · decide +kernel
  · decide +kernel
  · decide +kernel

end CommandRun
end ToolBindings
