import ToolBindings.Proofs.Command.Pass
import ToolBindings.Proofs.Command.Survival
import ToolBindings.Proofs.FileTree.Rereading

/-!
# Modules that are up to date

Whatever earlier generations have left behind, one that succeeds and has classes to list leaves an
aggregate that lists exactly these classes, and for every server that has some a toolset that lists
exactly those of the server (`current_of_generate`). A generation without classes writes nothing, so
that what an earlier one wrote stays unless it is cleaned.
-/

namespace ToolBindings

/-! ## Lists of classes -/

/-- The text of a module that lists exactly the classes of some descriptors. -/
structure Lists (name : String) (descriptors : List Descriptor) (text : String) : Prop where
  nodup : (descriptors.map Descriptor.className).Nodup
  imports : ∃ imports : List ClassImport, imports.Perm (descriptors.map Descriptor.classImport) ∧
    text = ToolsetModule.write ⟨name, imports⟩ ∧
    ((∀ d ∈ descriptors, d.classImport.Plain) →
      ToolsetModule.read? text = some ⟨name, imports⟩)

theorem lists_imports {name : String} (hname : Name.IsIdentifier name) {descriptors : List Descriptor}
    (hnodup : (descriptors.map Descriptor.className).Nodup) :
    Lists name descriptors (ToolsetModule.write ⟨name, Descriptor.imports descriptors⟩) := by
  refine ⟨hnodup, Descriptor.imports descriptors, Text.perm_sortedByPair _ _, rfl, fun hplain => ?_⟩
  refine ToolsetModule.read?_write hname.isNameChar fun i hi => ?_
  rw [Descriptor.imports, Text.mem_sortedByPair] at hi
  obtain ⟨d, hd, rfl⟩ := List.mem_map.1 hi
  exact hplain d hd

/-- A text lists the classes of no more than one collection of descriptors. -/
theorem Lists.perm {name : String} {descriptors others : List Descriptor} {text : String}
    (h : Lists name descriptors text) (hothers : Lists name others text)
    (hplain : ∀ d ∈ descriptors, d.classImport.Plain)
    (hplainOthers : ∀ d ∈ others, d.classImport.Plain) :
    (descriptors.map Descriptor.classImport).Perm (others.map Descriptor.classImport) := by
  obtain ⟨imports, hperm, -, hread⟩ := h.imports
  obtain ⟨imports', hperm', -, hread'⟩ := hothers.imports
  have hsame := (hread hplain).symm.trans (hread' hplainOthers)
  obtain rfl : imports = imports' := congrArg ToolsetModule.imports (Option.some.inj hsame)
  exact hperm.symm.trans hperm'

namespace CommandRun

variable {run : CommandRun} {wanted : List String} {options : GenerateOptions} {w w' : Workspace}

/-- Whatever is read at a path lists exactly the classes of some descriptors; in a tree without links
it is there to be read. -/
structure ShowsList (before after : FileTree) (path : Path) (name : String)
    (descriptors : List Descriptor) : Prop where
  text : ∃ text, Lists name descriptors text ∧
    (∀ octets, after.read path = .ok octets → octets = Text.Utf8.encode text) ∧
    (before.Plain → after.read path = .ok (Text.Utf8.encode text))

/-- What a generation of wanted servers leaves of lists of classes. -/
structure Current (run : CommandRun) (wanted : List String) (options : GenerateOptions)
    (w : Workspace) (after : FileTree) : Prop where
  /-- Without classes nothing is written: the tree is as cleaning has left it. -/
  idle : run.descriptors wanted options w = [] →
    after = (run.cleaned options (run.selected wanted) w).files
  aggregate : run.descriptors wanted options w ≠ [] →
    ShowsList w.files after run.project.settings.generated.aggregatePath aggregateName
      (run.descriptors wanted options w)
  /-- The toolset of a server with classes is a module of the plan, and it is not lost to the
  aggregate: either it has another name, or no link leads from one to the other. -/
  toolsets : ∀ server ∈ run.selected wanted,
    (run.descriptors wanted options w).filter (·.server == server.slug) ≠ [] →
    ∃ className, IsToolsetName server.slug className ∧
      (∃ source, .module (run.project.settings.generated.classPath server.slug className)
          (run.project.settings.generated.className server.slug className) source
        ∈ (run.plan options (run.selected wanted) w).files) ∧
      (className ≠ aggregateName ∨ w.files.Plain →
        ShowsList w.files after (run.project.settings.generated.classPath server.slug className)
          className ((run.descriptors wanted options w).filter (·.server == server.slug)))

/-! ## What stands where it was written -/

/-- The toolset of a server stands where it was written, unless it has the name of the aggregate. -/
theorem written_toolset {g : GeneratedSettings} {descriptors : List Descriptor}
    {named : List (String × String)} (hgiven : ∀ n ∈ named, IsToolsetName n.1 n.2)
    (hnodup : (named.map (·.2)).Nodup) {n : String × String} (hn : n ∈ named)
    (hname : n.2 ≠ aggregateName)
    (h : run.writeAll false (descriptors.map Descriptor.file ++
      (named.flatMap (fun n => Plan.toolsetFiles g descriptors n.1 n.2) ++
        Plan.aggregateFiles g descriptors)) w = (.ok (), w')) :
    w'.files.Written (g.classPath n.1 n.2) (ToolsetModule.write
      ⟨n.2, Descriptor.imports (descriptors.filter (·.server == n.1))⟩) := by
  obtain ⟨before, after, rfl⟩ := List.append_of_mem hn
  have hmarker (directory : Path) :
      (PlannedFile.marker directory).path.lastName ≠ (g.classPath n.1 n.2).lastName := by
    rw [PlannedFile.path, GeneratedSettings.classPath, Path.lastName_child, Path.lastName_child]
    exact (hgiven n hn).moduleFile_ne_packageMarker.symm
  have hother {name : String} (hne : name ≠ n.2) (directory : Path) :
      (directory.child (moduleFile name)).lastName ≠ (g.classPath n.1 n.2).lastName := by
    rw [GeneratedSettings.classPath, Path.lastName_child, Path.lastName_child]
    exact fun hfile => hne (moduleFile_inj hfile)
  rw [List.flatMap_append, List.flatMap_cons, Plan.toolsetFiles, List.cons_append,
    List.append_assoc, ← List.append_assoc (descriptors.map Descriptor.file), List.cons_append] at h
  -- no file that is written later has the name of this one
  refine written_writeAll h fun f hf => ?_
  rw [List.map_append, List.map_cons] at hnodup
  have hlater := (List.nodup_cons.1 (List.nodup_append.1 hnodup).2.1).1
  simp only [List.cons_append, List.nil_append, List.mem_cons, List.mem_append] at hf
  rcases hf with rfl | hf | hf
  · exact hmarker _
  · -- the toolsets after this one have other names
    obtain ⟨n', hn', hf⟩ := List.mem_flatMap.1 hf
    rw [Plan.toolsetFiles, List.mem_pair] at hf
    rcases hf with rfl | rfl
    · exact hother (fun hsame => hlater (List.mem_map.2 ⟨n', hn', hsame⟩)) _
    · exact hmarker _
  · rw [Plan.aggregateFiles, List.mem_pair] at hf
    rcases hf with rfl | rfl
    · exact hother hname.symm g.base
    · exact hmarker _

/-- A generation that succeeds has written its plan, and in a tree without links every file of the plan
stands. -/
theorem stands_of_generate {servers : List Server}
    (hselect : run.project.settings.selectServers wanted = .ok servers) (hsome : servers ≠ [])
    (hdry : options.dryRun = false) (h : run.generate wanted options w = (.ok .success, w'))
    (hplain : w.files.Plain) :
    ∀ f ∈ (run.plan options servers w).files,
      f.Stands (run.cleaned options servers w).files w'.files := by
  obtain ⟨-, read, written, hread, hwrite, hfiles⟩ := generate_success h hselect hsome
  have hcleaned : FileTree.Changes run.tag (run.Writes options servers w)
      (run.Removes options servers) w.files (run.cleaned options servers w).files :=
    changes_cleaned run options servers w
  have hplain' : read.files.Plain := hread ▸ (hcleaned.confined hplain).plain
  rw [hdry] at hwrite
  rw [hfiles, ← hread]
  exact Plan.stands_of_collision hplain' hwrite

/-- Without descriptors a plan has no files. -/
theorem files_plan_of_none {servers : List Server}
    (hselect : run.project.settings.selectServers wanted = .ok servers)
    (hnone : run.descriptors wanted options w = []) : (run.plan options servers w).files = [] := by
  rw [descriptors_eq hselect] at hnone
  rw [plan, Plan.ofDefinitions]
  generalize Plan.describe _ _ _ _ = described at hnone ⊢
  obtain ⟨descriptors, collision⟩ := described
  obtain rfl : descriptors = [] := hnone
  simp

/-- A generation that succeeds without classes has changed nothing but what cleaning has. -/
theorem files_of_idle {servers : List Server}
    (hselect : run.project.settings.selectServers wanted = .ok servers) (hsome : servers ≠ [])
    (h : run.generate wanted options w = (.ok .success, w'))
    (hnone : run.descriptors wanted options w = []) :
    w'.files = (run.cleaned options servers w).files := by
  obtain ⟨-, read, written, hread, hwrite, hfiles⟩ := generate_success h hselect hsome
  rw [files_plan_of_none hselect hnone] at hwrite
  cases hwrite
  rw [hfiles, hread]

/-- With descriptors and without a collision it has their files, those of toolsets and those of the
aggregate. -/
theorem files_plan_of_some {servers : List Server}
    (hselect : run.project.settings.selectServers wanted = .ok servers)
    (hsome : run.descriptors wanted options w ≠ [])
    (hcollision : (run.plan options servers w).collision = none) :
    let g := run.project.settings.generated
    let descriptors := run.descriptors wanted options w
    ∃ named : List (String × String),
      Plan.NamedToolsets .empty (Plan.serversOf descriptors) named ∧
      named.map (·.1) = Plan.serversOf descriptors ∧
      (run.plan options servers w).files = descriptors.map Descriptor.file ++
        (named.flatMap (fun n => Plan.toolsetFiles g descriptors n.1 n.2) ++
          Plan.aggregateFiles g descriptors) := by
  intro g descriptors
  have hdescriptors := (descriptors_eq hselect : descriptors = _).symm
  obtain ⟨named, hnamed, htoolsets, hservers⟩ :=
    Plan.files_toolsets g (!options.failOnCollision) descriptors .empty (Plan.serversOf descriptors)
  refine ⟨named, hnamed, hservers (Plan.collision_toolsets hdescriptors hsome hcollision), ?_⟩
  rw [plan, Plan.files_ofDefinitions hdescriptors hsome hcollision, htoolsets]

theorem selectServers_of_selected (h : run.selected wanted ≠ []) :
    run.project.settings.selectServers wanted = .ok (run.selected wanted) := by
  rw [selected] at h ⊢
  cases hselect : run.project.settings.selectServers wanted with
  | error fault =>
    rw [hselect] at h
    exact absurd rfl h
  | ok servers => rfl

/-- In a tree without links the aggregate of a generation that succeeds with classes is there. -/
theorem read_aggregate_of_generate {servers : List Server}
    (hselect : run.project.settings.selectServers wanted = .ok servers) (hsome : servers ≠ [])
    (hdry : options.dryRun = false) (h : run.generate wanted options w = (.ok .success, w'))
    (hplain : w.files.Plain) (hdescribed : run.descriptors wanted options w ≠ []) :
    w'.files.read run.project.settings.generated.aggregatePath
      = .ok (Text.Utf8.encode (ToolsetModule.write
          ⟨aggregateName, Descriptor.imports (run.descriptors wanted options w)⟩)) := by
  obtain ⟨hcollision, -⟩ := generate_success h hselect hsome
  obtain ⟨named, -, -, hplan⟩ := files_plan_of_some hselect hdescribed hcollision
  refine stands_of_generate hselect hsome hdry h hplain
    (.module _ run.project.settings.generated.aggregateModule _) ?_
  rw [hplan]
  exact List.mem_append_right _ (List.mem_append_right _ (.head _))

/-- The plan of a generation that succeeds has a toolset for each server with classes; it stands where
it was written, unless it has the name of the aggregate. -/
theorem toolset_of_generate {servers : List Server} {slug : String}
    (hselect : run.project.settings.selectServers wanted = .ok servers) (hsome : servers ≠ [])
    (hdry : options.dryRun = false) (h : run.generate wanted options w = (.ok .success, w'))
    (hown : (run.descriptors wanted options w).filter (·.server == slug) ≠ []) :
    let g := run.project.settings.generated
    ∃ className source, IsToolsetName slug className ∧
      source = ToolsetModule.write ⟨className,
        Descriptor.imports ((run.descriptors wanted options w).filter (·.server == slug))⟩ ∧
      .module (g.classPath slug className) (g.className slug className) source
        ∈ (run.plan options servers w).files ∧
      (className ≠ aggregateName → w'.files.Written (g.classPath slug className) source) := by
  intro g
  have hdescribed : run.descriptors wanted options w ≠ [] := fun hnone => hown (by simp [hnone])
  obtain ⟨hcollision, read, written, -, hwrite, hfiles⟩ := generate_success h hselect hsome
  obtain ⟨named, hnamed, hservers, hplan⟩ := files_plan_of_some hselect hdescribed hcollision
  -- a server with classes is among those that toolsets are named for
  obtain ⟨d, hd⟩ := List.exists_mem_of_ne_nil _ hown
  obtain ⟨hmem, hslug⟩ := List.mem_filter.1 hd
  have hnames : slug ∈ named.map (·.1) := by
    rw [hservers, Plan.mem_serversOf]
    exact ⟨d, hmem, by simpa using hslug⟩
  obtain ⟨⟨_, className⟩, hn, rfl⟩ := List.mem_map.1 hnames
  refine ⟨className, _, hnamed.given _ hn, rfl, ?_, fun hname => ?_⟩
  · rw [hplan]
    refine List.mem_append_right _ (List.mem_append_left _ (List.mem_flatMap.2 ⟨_, hn, ?_⟩))
    rw [Plan.toolsetFiles, List.mem_pair]
    exact Or.inl rfl
  · rw [hplan, hdry] at hwrite
    rw [hfiles]
    exact written_toolset hnamed.given hnamed.nodup hn hname hwrite

/-- A generation that succeeds leaves nothing to be read at the aggregate and at the toolsets that it
wrote but the lists of the classes that it generated. -/
theorem current_of_generate (h : (run.generate wanted options w).1 = .ok .success)
    (hdry : options.dryRun = false) (hsome : run.selected wanted ≠ []) :
    run.Current wanted options w (run.generate wanted options w).2.files := by
  obtain ⟨w', hgenerate⟩ : ∃ w', run.generate wanted options w = (.ok .success, w') :=
    ⟨_, Prod.ext h rfl⟩
  have hselect := selectServers_of_selected hsome
  rw [hgenerate]
  have hstands := stands_of_generate hselect hsome hdry hgenerate
  have hnodup := nodup_descriptors run wanted options w
  refine ⟨files_of_idle hselect hsome hgenerate, fun hdescribed => ⟨_, lists_imports
      isClassName_aggregateName.toIsIdentifier hnodup, fun octets hoctets => ?_, fun hplain => ?_⟩,
    fun server hserver hown => ?_⟩
  · exact (written_of_generate hgenerate hdry hdescribed).2.eq_of_read hoctets
  · exact read_aggregate_of_generate hselect hsome hdry hgenerate hplain hdescribed
  · obtain ⟨className, source, htoolset, rfl, hmodule, hwritten⟩ :=
      toolset_of_generate hselect hsome hdry hgenerate hown
    have hownNodup : (((run.descriptors wanted options w).filter (·.server == server.slug)).map
        Descriptor.className).Nodup :=
      hnodup.sublist (List.filter_sublist.map Descriptor.className)
    have hlists := lists_imports htoolset.isClassName.toIsIdentifier hownNodup
    refine ⟨className, htoolset, ⟨_, hmodule⟩, fun hapart => ⟨_, hlists, fun octets hoctets => ?_,
      fun hplain => hstands hplain _ hmodule⟩⟩
    rcases hapart with hname | hplain
    · exact (hwritten hname).eq_of_read hoctets
    · exact Except.ok.inj (hoctets.symm.trans (hstands hplain _ hmodule))

theorem selected_crm_ne_nil : crm.selected [] ≠ [] := by
  have hselect := Registry.selectServers_oneServer "crm" "crm.json"
  rw [selected, crm, hselect]
  exact List.cons_ne_nil _ _

/-- A manifest that lists none. -/
def emptyListing : String := "\x7b\"tools\":[]\x7d"

/-- What the run leaves, with another manifest since. -/
def crmChanged (manifest : String) : Workspace :=
  let w := (crm.generate [] plain crmWorkspace).2
  { w with files := w.files.setEntry ["crm.json"] (.file (Text.Utf8.encode manifest)) }

/-- What the next runs come to, evaluated once. -/
private theorem crmChanged_run :
    ((crm.generate [] plain (crmChanged emptyListing)).1 = .ok .success ∧
        (crm.descriptors [] plain (crmChanged emptyListing)).isEmpty = true) ∧
      ((crm.generate [] plain (crmChanged (listing "find"))).1 = .ok .success ∧
        (crm.descriptors [] plain (crmChanged (listing "find"))).map Descriptor.key
          = [⟨"crm", "find", "CrmFindTool"⟩]) ∧
      ∀ manifest ∈ [emptyListing, listing "find"],
        (crmChanged manifest).files.locate true crm.project.settings.generated.aggregatePath
            = (crm.generate [] plain crmWorkspace).2.files.locate true
                crm.project.settings.generated.aggregatePath ∧
          (crmChanged manifest).files.locate true crm.project.settings.generated.aggregatePath
            = .ok ["generated_tools", "McpToolset.py"] := by
  decide +kernel

/-- What the first run has written stands where the next one starts: the aggregate lists the class of
its tool. -/
private theorem read_crmChanged {manifest : String} (h : manifest ∈ [emptyListing, listing "find"]) :
    (crmChanged manifest).files.read crm.project.settings.generated.aggregatePath
      = .ok (Text.Utf8.encode (ToolsetModule.write
          ⟨aggregateName, Descriptor.imports (crm.descriptors [] plain crmWorkspace)⟩)) := by
  have hfirst := read_aggregate_of_generate (selectServers_of_selected selected_crm_ne_nil)
    selected_crm_ne_nil rfl generate_crm plain_crmWorkspace descriptors_crm_ne_nil
  obtain ⟨-, -, hall⟩ := crmChanged_run
  obtain ⟨hsame, hlocate⟩ := hall manifest h
  have hkept : (crmChanged manifest).files.at? ["generated_tools", "McpToolset.py"]
      = (crm.generate [] plain crmWorkspace).2.files.at? ["generated_tools", "McpToolset.py"] :=
    (FileTree.at?_setEntry (List.cons_ne_nil _ _) _).trans (if_neg (by decide))
  rw [← hfirst, FileTree.read, FileTree.read, ← hsame, hlocate]
  dsimp only
  rw [hkept]

/-- The first run has listed a tool that the manifest does not list any more; the next one lists the
tool that it lists now. -/
theorem current_of_generate_changed :
    (crm.generate [] plain (crmChanged (listing "find"))).1 = .ok .success ∧
      plain.dryRun = false ∧ crm.selected [] ≠ [] ∧
      (∃ text, (crmChanged (listing "find")).files.read
          crm.project.settings.generated.aggregatePath = .ok (Text.Utf8.encode text) ∧
        Lists aggregateName (crm.descriptors [] plain crmWorkspace) text) ∧
      (crm.descriptors [] plain (crmChanged (listing "find"))).map Descriptor.key
        = [⟨"crm", "find", "CrmFindTool"⟩] ∧
      crm.Current [] plain (crmChanged (listing "find"))
        (crm.generate [] plain (crmChanged (listing "find"))).2.files := by
  obtain ⟨-, ⟨hsuccess, hkeys⟩, -⟩ := crmChanged_run
  refine ⟨hsuccess, rfl, selected_crm_ne_nil, ⟨_, read_crmChanged (.tail _ (.head _)), ?_⟩, hkeys,
    current_of_generate hsuccess rfl selected_crm_ne_nil⟩
  exact lists_imports isClassName_aggregateName.toIsIdentifier
    (nodup_descriptors crm [] plain crmWorkspace)

/-- The next run succeeds without classes, and the aggregate still lists the class of the tool that is
gone. -/
theorem stale_crmEmptied :
    (crm.generate [] plain (crmChanged emptyListing)).1 = .ok .success ∧ crm.selected [] ≠ [] ∧
      ∃ text, (crm.generate [] plain (crmChanged emptyListing)).2.files.read
          crm.project.settings.generated.aggregatePath = .ok (Text.Utf8.encode text) ∧
        Lists aggregateName (crm.descriptors [] plain crmWorkspace) text ∧
        ¬ Lists aggregateName (crm.descriptors [] plain (crmChanged emptyListing)) text := by
  obtain ⟨⟨hsuccess, hnone⟩, -⟩ := crmChanged_run
  rw [List.isEmpty_iff] at hnone
  have hlists := lists_imports isClassName_aggregateName.toIsIdentifier
    (nodup_descriptors crm [] plain crmWorkspace)
  have hidle : (crm.generate [] plain (crmChanged emptyListing)).2.files
      = (crmChanged emptyListing).files := by
    rw [files_of_idle (selectServers_of_selected selected_crm_ne_nil) selected_crm_ne_nil
      (Prod.ext hsuccess rfl) hnone, cleaned_of_keeping crm rfl]
  refine ⟨hsuccess, selected_crm_ne_nil, _, ?_, hlists, fun hother => ?_⟩
  · rw [hidle]
    exact read_crmChanged (.head _)
  · have hmade : ∀ d ∈ crm.descriptors [] plain crmWorkspace, d.classImport.Plain :=
      fun d hd => Importer.plain_classImport serves_crm (made_of_mem_descriptors hd)
    have hperm := hlists.perm hother hmade (hnone ▸ List.forall_mem_nil _)
    rw [hnone, List.map_nil, List.perm_nil, List.map_eq_nil_iff] at hperm
    exact descriptors_crm_ne_nil hperm

end CommandRun
end ToolBindings
