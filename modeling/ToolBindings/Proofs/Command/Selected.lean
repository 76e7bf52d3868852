import ToolBindings.Proofs.Command.Pass
import ToolBindings.Proofs.Command.Replay
import ToolBindings.Proofs.Name.Grouping

/-!
# Selected servers among all

The registry names the tools of selected servers as if there were no others. After a generation for
all servers this gives the tools of a selection the classes that were generated for them exactly if
no tool that is left out disturbs their names (`classes_filter_iff`).
-/

namespace ToolBindings

/-- What the class of a resolved tool is known under. -/
def ResolvedTool.key (t : ResolvedTool) : BindingKey := ⟨t.server, t.tool, t.className⟩

/-- Where a name is given out without suffixes, it is given out with them as well. -/
theorem Name.Claimed.allocateTool_suffixes {claimed next : Name.Claimed}
    {server tool name : String} {suffixes : Bool}
    (h : claimed.allocateTool server tool suffixes = .ok (name, next)) :
    claimed.allocateTool server tool true = .ok (name, next) := by
  cases suffixes with
  | true => exact h
  | false =>
    rw [allocateTool, allocate] at h ⊢
    split at h
    · cases h
    · rename_i hfree
      rw [if_neg hfree]
      exact h

/-- A plan that meets no collision is the same where suffixes are allowed. -/
theorem Plan.describe_suffixes {g : GeneratedSettings} {suffixes : Bool} {claimed : Name.Claimed}
    {definitions : List Definition} (h : (describe g suffixes claimed definitions).2 = none) :
    describe g suffixes claimed definitions = describe g true claimed definitions := by
  induction definitions generalizing claimed with
  | nil => rfl
  | cons d rest ih =>
    rw [describe] at h ⊢
    rw [describe]
    cases hname : claimed.allocateTool d.server d.tool.name suffixes with
    | error collision =>
      rw [hname] at h
      cases h
    | ok given =>
      obtain ⟨name, next⟩ := given
      rw [hname] at h
      rw [Name.Claimed.allocateTool_suffixes hname]
      dsimp only at h ⊢
      rw [ih h]

/-- Wanted servers that are all configured are those of all servers that are wanted. -/
theorem Settings.selectServers_filter {settings : Settings} {servers : List Server}
    {wanted : List String} (h : settings.selectServers [] = .ok servers) (hwanted : wanted ≠ [])
    (hall : ∀ slug ∈ wanted, ∃ server ∈ servers, server.slug = slug) :
    settings.selectServers wanted = .ok (servers.filter (wanted.contains ·.slug)) := by
  rw [selectServers] at h ⊢
  cases hservers : settings.allServers with
  | error fault =>
    rw [hservers] at h
    cases h
  | ok all =>
    rw [hservers] at h
    cases h
    have hmissing : missingSlugs servers wanted = [] := by
      have hnone : wanted.filter (fun slug => !(servers.any (·.slug == slug))) = [] := by
        rw [List.filter_eq_nil_iff]
        intro slug hslug
        obtain ⟨server, hmem, rfl⟩ := hall slug hslug
        simpa using ⟨server, hmem, rfl⟩
      rw [missingSlugs, hnone]
      rfl
    have hsome : wanted.isEmpty = false := by simpa using hwanted
    simp only [bind, Except.bind, hsome, hmissing]
    rfl

namespace Registry

variable {project : Project} {files : FileTree} {namespaceName : String} {servers : List Server}
  {wanted : List String}

/-- The resolved tool of a server, a tool and a class name. -/
def resolvedAs (namespaceName : String) (named : (String × String) × String) : ResolvedTool :=
  ⟨named.1.1, named.1.2, named.2,
    dottedName (trimDots namespaceName) (Name.package named.1.1) named.2⟩

/-- Names claimed one after the other depend on the earlier tools alone. -/
theorem replay_eq_namedAfter {claimed : Name.Claimed} {earlier : List (String × String)}
    (h : ∀ name, name ∈ claimed ↔ name ∈ Name.names Name.mark earlier)
    (ps : List (String × String)) :
    (replay namespaceName claimed ps).1
      = (Name.namedAfter Name.mark earlier ps).map (resolvedAs namespaceName) := by
  induction ps generalizing claimed earlier with
  | nil => rfl
  | cons p ps ih =>
    have hclaim : claimTool claimed p.1 p.2 = (Name.nameAfter Name.mark earlier p,
        claimed.claim (Name.nameAfter Name.mark earlier p)) := by
      have hgiven := allocateTool_eq_claimTool claimed p.1 p.2
      rw [Name.Claimed.allocateTool_eq, Name.allocate_eq_nameAfter Name.isMark_mark h] at hgiven
      exact (Except.ok.inj hgiven).symm
    have hrest := ih (Name.mem_claim_nameAfter h p)
    rw [replay]
    simp only [hclaim, hrest, Name.namedAfter, List.map_cons]
    rfl

/-- The tools of servers without a NUL in a manifest path, with the names that they have from the
start. -/
theorem resolve_eq_named (h : project.settings.selectServers wanted = .ok servers)
    (hnul : ∀ server ∈ servers, server.hasNul = false) :
    Registry.resolve ⟨project, files, namespaceName⟩ wanted .everything
      = .ok ((Name.namedAfter Name.mark [] (servers.flatMap (keysOf files))).map
          (resolvedAs namespaceName)) := by
  have hnone : ∀ name, name ∈ Name.Claimed.empty ↔ name ∈ Name.names Name.mark [] := by
    simp [Name.names, Name.namedAfter]
  rw [resolve, h]
  simp only [bind, Except.bind]
  rw [resolveServers_everything _ _ hnul, replay_eq_namedAfter hnone]
  rfl

theorem hasNul_of_resolve {tools : List ResolvedTool}
    (h : project.settings.selectServers wanted = .ok servers)
    (hresolve : Registry.resolve ⟨project, files, namespaceName⟩ wanted .everything = .ok tools) :
    ∀ server ∈ servers, server.hasNul = false := by
  intro server hmem
  rw [Bool.eq_false_iff]
  intro hnul
  rw [resolve, h] at hresolve
  simp only [bind, Except.bind] at hresolve
  rw [resolveServers_nul _ _ hmem hnul] at hresolve
  cases hresolve

/-- The pairs of wanted servers are the wanted ones of all pairs. -/
theorem flatMap_keysOf_filter (files : FileTree) (servers : List Server) (wanted : List String) :
    (servers.filter (wanted.contains ·.slug)).flatMap (keysOf files)
      = (servers.flatMap (keysOf files)).filter (wanted.contains ·.1) := by
  induction servers with
  | nil => rfl
  | cons server servers ih =>
    have hkeys : (keysOf files server).filter (wanted.contains ·.1)
        = if wanted.contains server.slug then keysOf files server else [] := by
      rw [keysOf, List.filter_map]
      split <;> simp_all [Function.comp_def]
    rw [List.flatMap_cons, List.filter_append, hkeys, ← ih, List.filter_cons]
    split
    · rw [List.flatMap_cons]
    · rw [List.nil_append]

theorem resolvedAs_inj : Function.Injective (resolvedAs namespaceName) := by
  rintro ⟨⟨server, tool⟩, className⟩ ⟨⟨server', tool'⟩, className'⟩ h
  rw [resolvedAs, resolvedAs, ResolvedTool.mk.injEq] at h
  obtain ⟨rfl, rfl, rfl, -⟩ := h
  rfl

/-- The wanted servers' tools are resolved as they are among all tools exactly if all tools can be
resolved and those that are left out do not disturb their names. -/
theorem resolve_filter_iff (h : project.settings.selectServers [] = .ok servers)
    (hwanted : wanted ≠ []) (hall : ∀ slug ∈ wanted, ∃ server ∈ servers, server.slug = slug) :
    (∃ tools, Registry.resolve ⟨project, files, namespaceName⟩ [] .everything = .ok tools ∧
        Registry.resolve ⟨project, files, namespaceName⟩ wanted .everything
          = .ok (tools.filter (wanted.contains ·.server))) ↔
      (∀ server ∈ servers, server.hasNul = false) ∧
        Name.Undisturbed Name.mark (wanted.contains ·.1) (servers.flatMap (keysOf files)) := by
  have hselect := Settings.selectServers_filter h hwanted hall
  have hsame (hnul : ∀ server ∈ servers, server.hasNul = false) :
      Registry.resolve ⟨project, files, namespaceName⟩ wanted .everything
          = .ok (((Name.namedAfter Name.mark [] (servers.flatMap (keysOf files))).map
              (resolvedAs namespaceName)).filter (wanted.contains ·.server)) ↔
        Name.Undisturbed Name.mark (wanted.contains ·.1) (servers.flatMap (keysOf files)) := by
    rw [resolve_eq_named hselect fun server hmem => hnul server (List.mem_of_mem_filter hmem),
      flatMap_keysOf_filter, List.filter_map, Except.ok.injEq,
      (List.map_injective_iff.2 resolvedAs_inj).eq_iff, eq_comm]
    exact Name.named_filter_iff (fun p => wanted.contains p.1) Name.isMark_mark _
  constructor
  · rintro ⟨tools, htools, hresolve⟩
    have hnul := hasNul_of_resolve h htools
    rw [resolve_eq_named h hnul] at htools
    cases htools
    exact ⟨hnul, (hsame hnul).1 hresolve⟩
  · rintro ⟨hnul, hundisturbed⟩
    exact ⟨_, resolve_eq_named h hnul, (hsame hnul).2 hundisturbed⟩

/-! ## Classes -/

/-- Tools whose classes are in the table are found there, and the table stays as it is. -/
theorem collect_of_mem (importer : Importer) {table : BindingTable} {tools : List ResolvedTool}
    (h : ∀ t ∈ tools, t.key ∈ table.classes.map ToolClass.key) :
    collect importer table tools = ⟨tools.filterMap (table.get? ·.key), table, none⟩ ∧
      (tools.filterMap (table.get? ·.key)).map ToolClass.key = tools.map ResolvedTool.key := by
  induction tools with
  | nil => exact ⟨rfl, rfl⟩
  | cons t tools ih =>
    obtain ⟨ht, htools⟩ := List.forall_mem_cons.1 h
    obtain ⟨c, hget, hkey⟩ := BindingTable.get?_of_mem ht
    obtain ⟨hcollect, hkeys⟩ := ih htools
    have hfind : table.find? importer ⟨t.server, t.tool, t.className⟩ t.identifier
        = .ok (some c, table) := by
      have hget' : table.get? ⟨t.server, t.tool, t.className⟩ = some c := hget
      rw [BindingTable.find?, hget']
    rw [List.filterMap_cons, hget, collect, hfind]
    simp only [hcollect, List.map_cons, hkey, hkeys, and_self]

/-- The classes of wanted tools are the wanted ones of all classes. -/
theorem filter_found {table : BindingTable} (wanted : List String) (tools : List ResolvedTool) :
    (tools.filter (wanted.contains ·.server)).filterMap (table.get? ·.key)
      = (tools.filterMap (table.get? ·.key)).filter (wanted.contains ·.server) := by
  rw [List.filterMap_filter, List.filter_filterMap]
  refine List.filterMap_congr fun t _ => ?_
  cases hget : table.get? t.key with
  | none => simp
  | some c =>
    have hkey : c.key = t.key := BindingTable.key_of_get? hget
    have hserver : c.server = t.server := congrArg BindingKey.server hkey
    simp [Option.filter, hserver]

end Registry

/-! ## After a generation -/

namespace CommandRun

variable {run : CommandRun} {options : GenerateOptions} {w w' : Workspace} {servers : List Server}
  {importer : Importer} {table : BindingTable} {wanted : List String}

/-- The registry of a project over the files that are there after a run. -/
def registry (run : CommandRun) (files : FileTree) : Registry :=
  ⟨run.project, files, run.project.settings.generated.namespaceName⟩

/-- What the registry resolves after a generation for all servers is what was generated, if no
manifest is overwritten. -/
theorem resolved_of_generate (h : run.generate [] options w = (.ok .success, w'))
    (hselect : run.project.settings.selectServers [] = .ok servers) (hsome : servers ≠ [])
    (hmanifests : ∀ server ∈ servers,
      server.listedTools w'.files = server.listedTools (run.cleaned options servers w).files)
    {tools : List ResolvedTool}
    (hresolve : (run.registry w'.files).resolve [] .everything = .ok tools) :
    tools = (run.descriptors [] options w).map Descriptor.resolved := by
  have hcollision := Plan.describe_of_collision (generate_success h hselect hsome).1
  have hkeys : servers.flatMap (Registry.keysOf w'.files)
      = servers.flatMap (Registry.keysOf (run.cleaned options servers w).files) := by
    refine List.flatMap_congr fun server hserver => ?_
    rw [Registry.keysOf, Registry.keysOf, hmanifests server hserver]
  have hnul := Registry.hasNul_of_resolve hselect hresolve
  rw [registry, Registry.resolve, hselect] at hresolve
  simp only [bind, Except.bind] at hresolve
  rw [Registry.resolveServers_everything _ _ hnul] at hresolve
  rw [descriptors_eq hselect, Plan.describe_suffixes hcollision,
    (Registry.describe_eq_replay _ _ _).2,
    Registry.map_key_ordered (Settings.ascending_of_selectServers hselect), ← hkeys]
  exact (Except.ok.inj hresolve).symm

/-- After a generation for all servers that writes over no manifest, with the table that the
aggregate loads as, the registry gives the tools of wanted servers just as it gives them among all,
with the same names, identifiers and classes and in the same order, exactly if no manifest path has a
NUL and no tool that is left out disturbs the names of others. -/
theorem classes_filter_iff (h : run.generate [] options w = (.ok .success, w'))
    (hdry : options.dryRun = false)
    (hselect : run.project.settings.selectServers [] = .ok servers)
    (hmanifests : ∀ server ∈ servers,
      server.listedTools w'.files = server.listedTools (run.cleaned options servers w).files)
    (hfiles : importer.files = w'.files)
    (hserves : importer.Serves run.project.settings.generated)
    (hload : BindingTable.load importer (trimDots run.project.settings.generated.namespaceName)
      = .ok table)
    (hwanted : wanted ≠ []) (hall : ∀ slug ∈ wanted, ∃ server ∈ servers, server.slug = slug) :
    (∃ tools found,
        (run.registry w'.files).resolve [] .everything = .ok tools ∧
        (run.registry w'.files).resolve wanted .everything
          = .ok (tools.filter (wanted.contains ·.server)) ∧
        (run.registry w'.files).classes importer table [] .everything = ⟨found, table, none⟩ ∧
        (run.registry w'.files).classes importer table wanted .everything
          = ⟨found.filter (wanted.contains ·.server), table, none⟩ ∧
        found.map ToolClass.key = tools.map ResolvedTool.key) ↔
      (∀ server ∈ servers, server.hasNul = false) ∧
        Name.Undisturbed Name.mark (wanted.contains ·.1)
          (servers.flatMap (Registry.keysOf w'.files)) := by
  have hresolves : (∃ tools, (run.registry w'.files).resolve [] .everything = .ok tools ∧
      (run.registry w'.files).resolve wanted .everything
        = .ok (tools.filter (wanted.contains ·.server))) ↔ _ :=
    Registry.resolve_filter_iff hselect hwanted hall
  rw [← hresolves]
  constructor
  · rintro ⟨tools, -, htools, hresolve, -⟩
    exact ⟨tools, htools, hresolve⟩
  · rintro ⟨tools, htools, hresolve⟩
    have hsome : servers ≠ [] := by
      rintro rfl
      obtain ⟨slug, hslug⟩ := List.exists_mem_of_ne_nil wanted hwanted
      obtain ⟨server, hserver, -⟩ := hall slug hslug
      cases hserver
    -- what is resolved was generated, so that the table has a class for it
    have hmem : ∀ t ∈ tools, t.key ∈ table.classes.map ToolClass.key := by
      intro t ht
      rw [resolved_of_generate h hselect hsome hmanifests htools] at ht
      obtain ⟨d, hd, rfl⟩ := List.mem_map.1 ht
      obtain ⟨hwritten, haggregate⟩ := written_of_generate h hdry (List.ne_nil_of_mem hd)
      rw [← hfiles] at hwritten haggregate
      have hperm := (BindingTable.load_iff hserves (fun d => made_of_mem_descriptors)
        (nodup_keys run [] options w) hwritten haggregate).2 table hload
      exact hperm.mem_iff.2 (List.mem_map_of_mem hd)
    obtain ⟨hcollect, hkeys⟩ := Registry.collect_of_mem importer hmem
    -- the wanted tools are collected from the same table
    have hsome := (Registry.collect_of_mem importer
      fun t ht => hmem t (List.mem_of_mem_filter (p := (wanted.contains ·.server)) ht)).1
    rw [Registry.filter_found] at hsome
    refine ⟨tools, _, htools, hresolve, ?_, ?_, hkeys⟩
    · rw [Registry.classes, htools]
      exact hcollect
    · rw [Registry.classes, hresolve]
      exact hsome

/-- Where a generation for all servers leaves the manifests as they were, so does it the listed
tools. -/
theorem listedTools_shared : ∀ server ∈ [firstServer, secondServer],
    server.listedTools sharedImporter.files = server.listedTools sharedWorkspace.files := by
  have hkept {p : Path} {octets : List UInt8} (hread : sharedWorkspace.files.read p = .ok octets)
      (haside : ¬sharedWorkspace.files.placeOf shared.project.settings.generated.base
        <+: sharedWorkspace.files.placeOf p) :
      sharedImporter.files.read p = sharedWorkspace.files.read p := by
    rw [hread, files_sharedImporter]
    exact read_of_aside Plan.plain_sharedWorkspace rfl haside hread []
  intro server hserver
  refine Server.listedTools_congr fun text htext => ?_
  rw [List.mem_pair] at hserver
  rcases hserver with rfl | rfl
  · cases htext
    exact hkept (read_first _ _) (by decide +kernel)
  · cases htext
    exact hkept (read_second _ _) (by decide +kernel)

/-- The tool of the second server that has a name of the first is left out. -/
theorem classes_filter_shared :
    ∃ table tools found, BindingTable.load sharedImporter "generated_tools" = .ok table ∧
      (shared.registry sharedImporter.files).resolve [] .everything = .ok tools ∧
      tools.map ResolvedTool.key = sharedKeys ∧
      (shared.registry sharedImporter.files).resolve ["a b"] .everything
        = .ok (tools.filter (["a b"].contains ·.server)) ∧
      (shared.registry sharedImporter.files).classes sharedImporter table [] .everything
        = ⟨found, table, none⟩ ∧
      (shared.registry sharedImporter.files).classes sharedImporter table ["a b"] .everything
        = ⟨found.filter (["a b"].contains ·.server), table, none⟩ ∧
      found.map ToolClass.key = tools.map ResolvedTool.key := by
  obtain ⟨hwritten, haggregate⟩ := written_of_generate generate_shared rfl descriptors_shared_ne_nil
  rw [← files_sharedImporter] at hwritten haggregate
  obtain ⟨table, htable⟩ := (BindingTable.load_iff serves_shared (fun d => made_of_mem_descriptors)
    (nodup_keys shared [] plain sharedWorkspace) hwritten haggregate).1.2 clear_shared
  have hmanifests : ∀ server ∈ [firstServer, secondServer],
      server.listedTools (shared.generate [] plain sharedWorkspace).2.files
        = server.listedTools (shared.cleaned plain [firstServer, secondServer] sharedWorkspace).files := by
    rw [cleaned_of_keeping shared rfl, ← files_sharedImporter]
    exact listedTools_shared
  -- the tools of the first server come first
  have hfirst : ([firstServer, secondServer].flatMap (Registry.keysOf sharedImporter.files)).Pairwise
      fun q p => ["a b"].contains p.1 = true → ["a b"].contains q.1 = true := by
    rw [List.flatMap_cons, List.pairwise_append]
    have hin : ∀ q ∈ Registry.keysOf sharedImporter.files firstServer,
        ["a b"].contains q.1 = true := fun q hq => Registry.fst_of_mem_keysOf hq ▸ by decide
    have hout : ∀ p ∈ [secondServer].flatMap (Registry.keysOf sharedImporter.files),
        ["a b"].contains p.1 ≠ true := by
      intro p hp
      obtain ⟨server, hserver, hp⟩ := List.mem_flatMap.1 hp
      rw [Registry.fst_of_mem_keysOf hp, List.mem_singleton.1 hserver]
      decide
    refine ⟨List.pairwise_of_forall_mem_list fun q hq _ _ _ => hin q hq,
      List.pairwise_of_forall_mem_list fun _ _ p hp hselected => absurd hselected (hout p hp),
      fun q hq _ _ _ => hin q hq⟩
  have hiff := classes_filter_iff generate_shared rfl selectServers_shared hmanifests
    files_sharedImporter serves_shared htable (List.cons_ne_nil "a b" []) (by simp [firstServer])
  rw [trimDots_shared] at htable
  rw [← files_sharedImporter] at hiff
  obtain ⟨tools, found, htools, hagree⟩ :=
    hiff.2 ⟨by decide +kernel, Name.undisturbed_of_pairwise hfirst⟩
  have hkeys : tools.map ResolvedTool.key = sharedKeys := by
    rw [files_sharedImporter] at htools
    rw [resolved_of_generate generate_shared selectServers_shared (List.cons_ne_nil _ _) hmanifests
      htools, List.map_map, ← descriptors_shared]
    rfl
  exact ⟨table, tools, found, htable, htools, hkeys, hagree⟩

end CommandRun

end ToolBindings
