import ToolBindings.Proofs.Command.Discovering
import ToolBindings.Proofs.Server.Selection

/-!
# Walks that end at the first failure

A discovery without pruning and a health check that end at the first failure do exactly what they do
otherwise, up to and including the first server that fails (`cutShort_of_failFast`). What they do
otherwise is told by the stages of the walk (`stages`): the workspace after each server, with its
failure said. Each stage goes on from the one before (`continues_of_append`), and a walk that is not
cut short ends with the last one (`staged_eachServer`).
-/

namespace ToolBindings

/-! ## What is logged stays logged -/

/-- What has happened on a connection has happened on another one too, before anything else. -/
structure Connection.Continues (c c' : Connection) : Prop where
  events : c.events <+: c'.events
  notes : c.notes <+: c'.notes

namespace Connection

variable {c c' c'' : Connection}

theorem Continues.refl (c : Connection) : c.Continues c := ⟨List.prefix_rfl, List.prefix_rfl⟩

theorem Continues.trans (h : c.Continues c') (h' : c'.Continues c'') : c.Continues c'' :=
  ⟨h.events.trans h'.events, h.notes.trans h'.notes⟩

theorem continues_pause (milliseconds : Nat) (c : Connection) :
    c.Continues (c.pause milliseconds) :=
  ⟨List.prefix_append .., List.prefix_rfl⟩

theorem continues_note (n : RetryNote) (c : Connection) : c.Continues (c.note n) :=
  ⟨List.prefix_rfl, List.prefix_append ..⟩

theorem continues_send (request : Request) (c : Connection) : c.Continues (c.send request).2 := by
  rw [send]
  cases c.script with
  | none => exact .refl c
  | some replies => exact ⟨List.prefix_append .., List.prefix_rfl⟩

end Connection

namespace Rpc

theorem continues_attempt (target : Target) (method : String) (params : Json) (c : Connection) :
    c.Continues (attempt target method params c).2 := by
  unfold attempt
  extract_lets message
  have hsend := Connection.continues_send message c
  split
  · exact .refl c
  · rcases hsent : c.send message with ⟨response | what, after⟩
    · rw [hsent] at hsend
      dsimp only
      split
      · exact hsend
      · split <;> exact hsend
    · rw [hsent] at hsend
      exact hsend

/-- Trying again continues what the tries before have left. -/
theorem continues_runFrom (target : Target) (method : String) (params : Json)
    (more number pause : Nat) (c : Connection) :
    c.Continues (target.retry.runFrom (retryActions target.retry) (attempt target method params)
      more number pause c).2 := by
  -- by induction on the tries that are left; a note and a pause stand between two tries
  induction more generalizing number pause c with
  | zero =>
    have hone := continues_attempt target method params c
    rcases htry : attempt target method params c with ⟨fault | value, after⟩
    · rw [RetryPolicy.runFrom, htry]
      rwa [htry] at hone
    · rw [RetryPolicy.runFrom, htry]
      rwa [htry] at hone
  | succ more ih =>
    have hone := continues_attempt target method params c
    rcases htry : attempt target method params c with ⟨fault | value, after⟩
    · rw [RetryPolicy.runFrom, htry]
      rw [htry] at hone
      dsimp only
      split
      · have hnoted : after.Continues ((retryActions target.retry).warn number fault after) := by
          cases fault with
          | failure cause => exact Connection.continues_note _ after
          | crash crash => exact .refl after
        refine hone.trans (hnoted.trans (.trans ?_ (ih ..)))
        split
        · exact Connection.continues_pause ..
        · exact .refl _
      · exact hone
    · rw [RetryPolicy.runFrom, htry]
      rwa [htry] at hone

end Rpc

theorem Project.continues_listTools (project : Project) (server : Server) (c : Connection) :
    c.Continues (project.listTools server c).2 := by
  cases htarget : project.target server none with
  | error cause =>
    rw [listTools_of_target_error htarget]
    exact .refl c
  | ok target =>
    rw [listTools_of_target htarget, Rpc.listTools_eq]
    exact Rpc.continues_runFrom target "tools/list" (.map []) _ _ _ c

/-- What has been done in a workspace has been done in another one too, before anything else. -/
structure Workspace.Continues (w w' : Workspace) : Prop where
  files : w.files.Grows w'.files
  connection : w.connection.Continues w'.connection
  notices : w.notices <+: w'.notices

namespace Workspace

variable {w w' w'' : Workspace}

theorem Continues.refl (w : Workspace) : w.Continues w := ⟨.refl _, .refl _, List.prefix_rfl⟩

theorem Continues.trans (h : w.Continues w') (h' : w'.Continues w'') : w.Continues w'' :=
  ⟨h.files.trans h'.files, h.connection.trans h'.connection, h.notices.trans h'.notices⟩

theorem Continues.say (h : w.Continues w') (notice : Notice) : w.Continues (w'.say notice) :=
  ⟨h.files, h.connection, h.notices.trans (List.prefix_append ..)⟩

end Workspace

namespace CommandRun

/-! ## The wanted servers -/

section

variable {run : CommandRun} {wanted : List String}

theorem ascending_selected (run : CommandRun) (wanted : List String) :
    Settings.Ascending (run.selected wanted) := by
  rw [selected]
  cases hselect : run.project.settings.selectServers wanted with
  | error fault => exact .nil
  | ok servers => exact Settings.ascending_of_selectServers hselect

/-- With no server to do something with, nothing is done. -/
theorem withServers_of_none (h : run.selected wanted = []) (purpose : String) (w : Workspace) :
    ∃ outcome : Except Crash ExitStatus × Workspace, outcome.2.files = w.files ∧
      ∀ act, run.withServers wanted purpose act w = outcome := by
  rw [selected] at h
  cases hselect : run.project.settings.selectServers wanted with
  | error fault =>
    cases fault with
    | crash crash => exact ⟨(.error crash, w), rfl, fun act => by rw [withServers, hselect]⟩
    | failure cause =>
      exact ⟨(.ok .failure, w.say (.failed cause)), rfl, fun act => by rw [withServers, hselect]⟩
  | ok servers =>
    rw [hselect] at h
    obtain rfl : servers = [] := h
    exact ⟨(.ok .success, w.say (.noServers purpose)), rfl, fun act => by rw [withServers, hselect]⟩

end

/-! ## The stages of a walk -/

/-- How far a walk has come with a server: whether the server failed, and the workspace in which that
has been said. -/
structure Stage where
  server : Server
  failed : Bool
  after : Workspace

/-- The stage that a visit comes to, unless it crashes. -/
def stage? (visit : Server → Workspace → Except Fault Unit × Workspace)
    (complaint : String → Failure → Notice) (server : Server) (w : Workspace) : Option Stage :=
  match visit server w with
  | (.ok (), after) => some ⟨server, false, after⟩
  | (.error (.failure cause), after) => some ⟨server, true, after.say (complaint server.slug cause)⟩
  | (.error (.crash _), _) => none

/-- The stages of a walk over servers that goes on after failures, up to a crash. -/
def stages (visit : Server → Workspace → Except Fault Unit × Workspace)
    (complaint : String → Failure → Notice) : List Server → Workspace → List Stage
  | [], _ => []
  | server :: rest, w =>
    match stage? visit complaint server w with
    | none => []
    | some stage => stage :: stages visit complaint rest stage.after

/-- The workspace after stages. -/
def ending (w : Workspace) : List Stage → Workspace
  | [] => w
  | stage :: rest => ending stage.after rest

section

variable {visit : Server → Workspace → Except Fault Unit × Workspace}
  {complaint : String → Failure → Notice} {servers rest : List Server} {server : Server}
  {w : Workspace} {stage : Stage}

theorem server_of_stage? (h : stage? visit complaint server w = some stage) :
    stage.server = server := by
  rw [stage?] at h
  split at h <;> cases h <;> rfl

/-- What a visit continues, its stage continues. -/
theorem continues_stage? (hvisit : w.Continues (visit server w).2)
    (h : stage? visit complaint server w = some stage) : w.Continues stage.after := by
  rw [stage?] at h
  split at h
  · rename_i after hdone
    rw [hdone] at hvisit
    cases h
    exact hvisit
  · rename_i cause after hfailed
    rw [hfailed] at hvisit
    cases h
    exact hvisit.say _
  · cases h

/-- Without a stage the walk ends with the crash of the visit. -/
theorem eachServer_of_no_stage (h : stage? visit complaint server w = none) (rest : List Server) :
    ∃ crash, ∀ failFast, eachServer visit complaint failFast (server :: rest) w
      = (.error crash, (visit server w).2) := by
  rw [stage?] at h
  split at h
  · cases h
  · cases h
  · rename_i crash after hcrash
    exact ⟨crash, fun failFast => by rw [eachServer, hcrash]⟩

/-- After a stage that is well the walk is the walk over the rest. -/
theorem eachServer_of_well (h : stage? visit complaint server w = some stage)
    (hwell : stage.failed = false) (failFast : Bool) (rest : List Server) :
    eachServer visit complaint failFast (server :: rest) w
      = eachServer visit complaint failFast rest stage.after := by
  rw [stage?] at h
  split at h
  · rename_i after hdone
    cases h
    rw [eachServer, hdone]
  · cases h
    cases hwell
  · cases h

/-- A stage that failed ends the walk, if that is asked for. -/
theorem eachServer_stopped (h : stage? visit complaint server w = some stage)
    (hfailed : stage.failed = true) (rest : List Server) :
    eachServer visit complaint true (server :: rest) w = (.ok .stopped, stage.after) := by
  rw [stage?] at h
  split at h
  · cases h
    cases hfailed
  · rename_i cause after hcause
    cases h
    rw [eachServer, hcause]
    rfl
  · cases h

/-- Otherwise the walk over the rest follows, and it is remembered that a stage failed. -/
theorem eachServer_goesOn (h : stage? visit complaint server w = some stage) (rest : List Server) :
    (eachServer visit complaint false (server :: rest) w).2
        = (eachServer visit complaint false rest stage.after).2 ∧
      ∀ visits, (eachServer visit complaint false (server :: rest) w).1 = .ok visits →
        ∃ more, (eachServer visit complaint false rest stage.after).1 = .ok more ∧
          visits = if stage.failed = true ∧ more = .allWell then .someFailed else more := by
  rw [stage?] at h
  split at h
  · rename_i after hdone
    cases h
    rw [eachServer, hdone]
    exact ⟨rfl, fun visits hvisits => ⟨visits, hvisits, by simp⟩⟩
  · rename_i cause after hcause
    cases h
    rw [eachServer, hcause]
    rcases hrest : eachServer visit complaint false rest (after.say (complaint server.slug cause))
      with ⟨crash | more, last⟩
    · simp [hrest]
    · cases more <;> simp [hrest]
  · cases h

/-! ## Walks that go on -/

/-- A walk that goes on after failures comes through stages: through all of them unless it crashes,
and then it returns in the workspace of the last one. -/
structure Staged (servers : List Server) (w : Workspace) (stages : List Stage)
    (outcome : Except Crash Visits × Workspace) : Prop where
  inOrder : stages.map Stage.server <+: servers
  complete : ∀ visits, outcome.1 = .ok visits → stages.map Stage.server = servers ∧
    outcome.2 = ending w stages ∧
    visits = if stages.any Stage.failed then .someFailed else .allWell
  continues : (ending w stages).Continues outcome.2

theorem staged_eachServer (complaint : String → Failure → Notice)
    (hvisit : ∀ server ∈ servers, ∀ w : Workspace, w.Continues (visit server w).2)
    (w : Workspace) :
    Staged servers w (stages visit complaint servers w)
      (eachServer visit complaint false servers w) := by
  -- by induction on the servers: the walk over the rest begins where the first stage ends
  induction servers generalizing w with
  | nil =>
    refine ⟨List.prefix_rfl, fun visits h => ?_, .refl w⟩
    cases h
    exact ⟨rfl, rfl, rfl⟩
  | cons server rest ih =>
    cases hstage : stage? visit complaint server w with
    | none =>
      obtain ⟨crash, hcrash⟩ := eachServer_of_no_stage hstage rest
      rw [stages, hstage, hcrash]
      exact ⟨List.nil_prefix, nofun, hvisit server (.head _) w⟩
    | some stage =>
      obtain ⟨hinOrder, hcomplete, hcontinues⟩ :=
        ih (fun other hother => hvisit other (.tail _ hother)) stage.after
      obtain ⟨hafter, hgoesOn⟩ := eachServer_goesOn hstage rest
      have hserver := server_of_stage? hstage
      rw [stages, hstage]
      refine ⟨?_, fun visits hvisits => ?_, ?_⟩
      · rw [List.map_cons, hserver]
        exact (List.prefix_cons_inj server).2 hinOrder
      · obtain ⟨more, hmore, rfl⟩ := hgoesOn visits hvisits
        obtain ⟨hall, hlast, rfl⟩ := hcomplete more hmore
        refine ⟨by rw [List.map_cons, hserver, hall], by rw [hafter, hlast, ending], ?_⟩
        cases hfailed : stage.failed <;>
          cases hany : List.any (stages visit complaint rest stage.after) Stage.failed <;>
            simp [hfailed, hany]
      · rw [hafter]
        exact hcontinues

theorem ending_append (w : Workspace) (before after : List Stage) :
    ending w (before ++ after) = ending (ending w before) after := by
  induction before generalizing w with
  | nil => rfl
  | cons stage before ih => exact ih stage.after

theorem continues_ending
    (hvisit : ∀ server ∈ servers, ∀ w : Workspace, w.Continues (visit server w).2)
    (w : Workspace) : w.Continues (ending w (stages visit complaint servers w)) := by
  induction servers generalizing w with
  | nil => exact .refl w
  | cons server rest ih =>
    rw [stages]
    cases hstage : stage? visit complaint server w with
    | none => exact .refl w
    | some stage =>
      have hfirst := continues_stage? (hvisit server (.head _) w) hstage
      exact hfirst.trans (ih (fun other hother => hvisit other (.tail _ hother)) stage.after)

/-- What has been done at a stage comes before what is done after it. -/
theorem continues_of_append
    (hvisit : ∀ server ∈ servers, ∀ w : Workspace, w.Continues (visit server w).2)
    {before after : List Stage} (h : stages visit complaint servers w = before ++ after) :
    (ending w before).Continues (ending w (stages visit complaint servers w)) := by
  induction before generalizing servers w with
  | nil => exact continues_ending hvisit w
  | cons first before ih =>
    -- the stages after the first one are those of the other servers
    cases servers with
    | nil =>
      rw [stages] at h
      cases h
    | cons server rest =>
      rw [stages] at h ⊢
      cases hstage : stage? visit complaint server w with
      | none =>
        rw [hstage] at h
        cases h
      | some stage =>
        rw [hstage, List.cons_append, List.cons.injEq] at h
        obtain ⟨rfl, hrest⟩ := h
        exact ih (fun other hother => hvisit other (.tail _ hother)) hrest

/-! ## Walks that end at the first failure -/

theorem eachServer_failFast_of_well
    (h : ∀ stage ∈ stages visit complaint servers w, stage.failed = false) :
    eachServer visit complaint true servers w = eachServer visit complaint false servers w := by
  induction servers generalizing w with
  | nil => rfl
  | cons server rest ih =>
    cases hstage : stage? visit complaint server w with
    | none =>
      obtain ⟨crash, hcrash⟩ := eachServer_of_no_stage hstage rest
      rw [hcrash, hcrash]
    | some stage =>
      rw [stages, hstage] at h
      have hwell := h stage (.head _)
      rw [eachServer_of_well hstage hwell, eachServer_of_well hstage hwell]
      exact ih fun other hother => h other (.tail _ hother)

theorem eachServer_failFast_of_failed {before after : List Stage} {first : Stage}
    (h : stages visit complaint servers w = before ++ first :: after)
    (hbefore : ∀ stage ∈ before, stage.failed = false) (hfirst : first.failed = true) :
    eachServer visit complaint true servers w = (.ok .stopped, first.after) := by
  induction servers generalizing w before with
  | nil =>
    rw [stages] at h
    simp at h
  | cons server rest ih =>
    cases hstage : stage? visit complaint server w with
    | none =>
      rw [stages, hstage] at h
      simp at h
    | some stage =>
      rw [stages, hstage] at h
      cases before with
      | nil =>
        rw [List.nil_append, List.cons.injEq] at h
        obtain ⟨rfl, -⟩ := h
        exact eachServer_stopped hstage hfirst rest
      | cons well before =>
        rw [List.cons_append, List.cons.injEq] at h
        obtain ⟨rfl, hrest⟩ := h
        rw [eachServer_of_well hstage (hbefore stage (.head _))]
        exact ih hrest fun other hother => hbefore other (.tail _ hother)

/-! ## Commands that end at the first failure -/

/-- What a command that ends at the first failure has to do with the command that goes on, whose
stages these are. -/
structure CutShort (servers : List Server) (w : Workspace) (stages : List Stage)
    (whole cut : Except Crash ExitStatus × Workspace) : Prop where
  ascending : Settings.Ascending servers
  inOrder : stages.map Stage.server <+: servers
  /-- A command that goes on and returns has come through all stages, and ends where they do. -/
  complete : ∀ status, whole.1 = .ok status → stages.map Stage.server = servers ∧
    (servers ≠ [] → whole = (.ok (.ofFailed (stages.any Stage.failed)), ending w stages))
  /-- Without a failure nothing is cut off. -/
  well : (∀ stage ∈ stages, stage.failed = false) → cut = whole
  /-- The first failure is the last thing that happens, and in the whole it comes before the rest. -/
  failed : ∀ before first after, stages = before ++ first :: after →
    (∀ stage ∈ before, stage.failed = false) → first.failed = true →
      cut = (.ok .failure, first.after) ∧ first.after.Continues whole.2
  /-- If the command that goes on returns, both end with the same status. -/
  status : ∀ status, whole.1 = .ok status → cut.1 = .ok status

/-- What a walk comes to if nothing follows it. -/
def concluding (outcome : Except Crash Visits × Workspace) : Except Crash ExitStatus × Workspace :=
  (outcome.1.map fun visits => .ofFailed (visits ≠ .allWell), outcome.2)

theorem discover_eq (run : CommandRun) (wanted : List String) (dryRun failFast : Bool) :
    run.discover wanted ⟨dryRun, false, failFast⟩ = run.withServers wanted "discover" fun servers w =>
      concluding (eachServer (run.discoverServer dryRun) .discoverFailed failFast servers w) := by
  rw [discover]
  congr
  funext servers w
  rcases eachServer (run.discoverServer dryRun) .discoverFailed failFast servers w with
    ⟨crash | visits, after⟩
  · rfl
  · simp [concluding, afterDiscovery, Except.map]

theorem health_eq (run : CommandRun) (wanted : List String) (failFast : Bool) :
    run.health wanted failFast = run.withServers wanted "health check" fun servers w =>
      concluding (eachServer run.checkServer .unhealthy failFast servers w) := by
  rw [health]
  congr
  funext servers w
  rcases eachServer run.checkServer .unhealthy failFast servers w with ⟨crash | visits, after⟩ <;>
    rfl

theorem cutShort_concluding
    (hvisit : ∀ server ∈ servers, ∀ w : Workspace, w.Continues (visit server w).2)
    (hservers : Settings.Ascending servers) (w : Workspace) :
    CutShort servers w (stages visit complaint servers w)
      (concluding (eachServer visit complaint false servers w))
      (concluding (eachServer visit complaint true servers w)) := by
  obtain ⟨hinOrder, hcomplete, hcontinues⟩ := staged_eachServer complaint hvisit w
  -- what the walk that goes on comes to
  have hwhole (status : ExitStatus)
      (h : (concluding (eachServer visit complaint false servers w)).1 = .ok status) :
      (stages visit complaint servers w).map Stage.server = servers ∧
        concluding (eachServer visit complaint false servers w)
          = (.ok (.ofFailed ((stages visit complaint servers w).any Stage.failed)),
            ending w (stages visit complaint servers w)) := by
    cases hvisits : (eachServer visit complaint false servers w).1 with
    | error crash =>
      rw [concluding, hvisits] at h
      cases h
    | ok visits =>
      obtain ⟨hall, hlast, rfl⟩ := hcomplete visits hvisits
      refine ⟨hall, ?_⟩
      rw [concluding, hvisits, hlast]
      cases (stages visit complaint servers w).any Stage.failed <;> rfl
  have hcut {before after : List Stage} {first : Stage}
      (h : stages visit complaint servers w = before ++ first :: after)
      (hbefore : ∀ stage ∈ before, stage.failed = false) (hfirst : first.failed = true) :
      concluding (eachServer visit complaint true servers w) = (.ok .failure, first.after) := by
    rw [eachServer_failFast_of_failed h hbefore hfirst]
    rfl
  have hwell (h : ∀ stage ∈ stages visit complaint servers w, stage.failed = false) :
      concluding (eachServer visit complaint true servers w)
        = concluding (eachServer visit complaint false servers w) := by
    rw [eachServer_failFast_of_well h]
  refine ⟨hservers, hinOrder, fun status h => ⟨(hwhole status h).1, fun _ => (hwhole status h).2⟩,
    hwell, fun before first after h hbefore hfirst => ⟨hcut h hbefore hfirst, ?_⟩,
    fun status h => ?_⟩
  · have hsplit : stages visit complaint servers w = (before ++ [first]) ++ after := by simp [h]
    have hfront := continues_of_append hvisit hsplit
    rw [ending_append] at hfront
    exact hfront.trans hcontinues
  · cases hfind : (stages visit complaint servers w).find? Stage.failed with
    | none =>
      rw [hwell]
      · exact h
      · simpa using hfind
    | some first =>
      obtain ⟨hfirst, before, after, hsplit, hbefore⟩ := List.find?_eq_some_iff_append.1 hfind
      rw [hcut hsplit (by simpa using hbefore) hfirst]
      rw [(hwhole status h).2, hsplit] at h
      simp [hfirst, ExitStatus.ofFailed] at h
      rw [h]

/-- Commands that do something with the wanted servers are cut short as what they do is. -/
theorem cutShort_withServers (run : CommandRun) (wanted : List String) (purpose : String)
    (hvisit : ∀ server (w : Workspace), w.Continues (visit server w).2) (w : Workspace) :
    CutShort (run.selected wanted) w (stages visit complaint (run.selected wanted) w)
      (run.withServers wanted purpose
        (fun servers w => concluding (eachServer visit complaint false servers w)) w)
      (run.withServers wanted purpose
        (fun servers w => concluding (eachServer visit complaint true servers w)) w) := by
  by_cases hnone : run.selected wanted = []
  · obtain ⟨outcome, -, houtcome⟩ := withServers_of_none hnone purpose w
    rw [houtcome, houtcome, hnone]
    exact ⟨.nil, List.prefix_rfl, fun _ _ => ⟨rfl, fun h => absurd rfl h⟩, fun _ => rfl,
      fun before first after h => by simp [stages] at h, fun _ h => h⟩
  · rw [withServers_of_some hnone, withServers_of_some hnone]
    exact cutShort_concluding (fun server _ => hvisit server) (ascending_selected run wanted) w

end

/-! ## Discovery and health check -/

theorem continues_checkServer (run : CommandRun) (server : Server) (w : Workspace) :
    w.Continues (run.checkServer server w).2 := by
  have hlist := run.project.continues_listTools server w.connection
  rw [checkServer]
  rcases hlisted : run.project.listTools server w.connection with ⟨fault | tools, c⟩
  · rw [hlisted] at hlist
    exact ⟨.refl _, hlist, List.prefix_rfl⟩
  · rw [hlisted] at hlist
    exact ⟨.refl _, hlist, List.prefix_append ..⟩

theorem continues_writeManifest (run : CommandRun) (path : Path) (server : Server)
    (tools : List (Entries LooseText LooseJson)) (w : Workspace) :
    w.Continues (run.writeManifest path server tools w).2 := by
  obtain ⟨hconnection, hfiles, hnotices⟩ := writeManifest_frame run path server tools w
  exact ⟨hfiles, hconnection ▸ .refl _, hnotices⟩

theorem continues_discoverServer (run : CommandRun) (dryRun : Bool) (server : Server)
    (w : Workspace) : w.Continues (run.discoverServer dryRun server w).2 := by
  cases hpath : server.manifestPath with
  | error cause =>
    rw [discoverServer_of_path_error dryRun hpath]
    exact .refl w
  | ok path =>
    have hlist := run.project.continues_listTools server w.connection
    rcases hlisted : run.project.listTools server w.connection with ⟨fault | tools, c⟩
    · rw [hlisted] at hlist
      rw [discoverServer_of_fault dryRun hpath hlisted]
      exact ⟨.refl _, hlist, List.prefix_rfl⟩
    · rw [hlisted] at hlist
      have hasked : w.Continues { w with connection := c } := ⟨.refl _, hlist, List.prefix_rfl⟩
      rw [discoverServer_of_tools dryRun hpath hlisted]
      split
      · exact hasked.say _
      · exact hasked.trans (continues_writeManifest ..)

/-- A discovery and a health check that end at the first failure are what they are otherwise, cut off
after the first server that fails: with the same requests, notes, files and notices up to there, and
with the same status. -/
theorem cutShort_of_failFast (run : CommandRun) (wanted : List String) (w : Workspace) :
    (∀ dryRun, CutShort (run.selected wanted) w
      (stages (run.discoverServer dryRun) .discoverFailed (run.selected wanted) w)
      (run.discover wanted ⟨dryRun, false, false⟩ w)
      (run.discover wanted ⟨dryRun, false, true⟩ w)) ∧
    CutShort (run.selected wanted) w (stages run.checkServer .unhealthy (run.selected wanted) w)
      (run.health wanted false w) (run.health wanted true w) := by
  constructor
  · intro dryRun
    rw [discover_eq, discover_eq]
    exact cutShort_withServers run wanted "discover" (run.continues_discoverServer dryRun) w
  · rw [health_eq, health_eq]
    exact cutShort_withServers run wanted "health check" run.continues_checkServer w

/-- The first of two servers cannot be reached: the second is asked only if the walk goes on. -/
example :
    let run := twoServers "crm.json" "n8n.json"
    let asked (failFast : Bool) := run.health [] failFast (afterReply (.breakdown .transport))
    ((asked false).2.connection.requests.map Request.endpoint,
        (asked true).2.connection.requests.map Request.endpoint)
      = (["https://crm.example/mcp", "https://n8n.example/mcp"], ["https://crm.example/mcp"]) := by
  intro run asked
  simp only [asked, run, health, withServers, selectServers_twoServers]
  decide +kernel

end CommandRun
end ToolBindings
