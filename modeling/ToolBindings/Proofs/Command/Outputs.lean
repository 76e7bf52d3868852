import ToolBindings.Proofs.Command.Partial

/-!
# What a generation may write, remove and name

Whatever servers and their tools are called, the names made of these calls are class names, and so a
generation writes to few kinds of paths below the directory of generated files (`Output`), removes
less (`Replaced`), and puts such names behind the namespace that it is given (`Placed`). The
namespace itself is taken as it is, so that it alone decides whether the dotted names can be
imported.
-/

namespace ToolBindings

/-! ## Class names -/

/-- What comes of claiming a name for a base: a class name or, where the base is taken and no suffix
is allowed, a collision. -/
def Name.Claimed.GivesClassName (claimed : Claimed) (base : String) (suffixes : Bool)
    (result : Except Collision (String × Claimed)) : Prop :=
  (∃ name next, result = .ok (name, next) ∧ IsClassName name) ∨
    ∃ collision, result = .error collision ∧ suffixes = false ∧ base ∈ claimed

namespace Name.Claimed

private theorem givesClassName_allocate {claimed : Claimed} {base mark : String} {suffixes : Bool}
    {collision : Collision} (hgiven : ∀ name next,
      claimed.allocate base mark suffixes collision = .ok (name, next) → IsClassName name) :
    claimed.GivesClassName base suffixes (claimed.allocate base mark suffixes collision) := by
  cases h : claimed.allocate base mark suffixes collision with
  | ok result =>
    obtain ⟨name, next⟩ := result
    exact Or.inl ⟨name, next, rfl, hgiven name next h⟩
  | error collision => exact Or.inr ⟨collision, rfl, (allocate_eq_error.1 h).2⟩

theorem givesClassName_allocateTool (claimed : Claimed) (server tool : String) (suffixes : Bool) :
    claimed.GivesClassName (toolBase server tool) suffixes
      (claimed.allocateTool server tool suffixes) :=
  givesClassName_allocate fun _ next h =>
    (Allocated.tool claimed next server tool suffixes h).isClassName

theorem givesClassName_allocateToolset (claimed : Claimed) (server : String) (suffixes : Bool) :
    claimed.GivesClassName (toolsetBase server) suffixes
      (claimed.allocateToolset server suffixes) :=
  givesClassName_allocate fun _ next h =>
    (Allocated.toolset claimed next server suffixes h).isClassName

end Name.Claimed

theorem IsToolName.isClassName {name : String} (h : IsToolName name) : Name.IsClassName name := by
  obtain ⟨claimed, next, server, tool, suffixes, h⟩ := h
  exact (Name.Allocated.tool claimed next server tool suffixes h).isClassName

theorem IsToolsetName.isClassName {server name : String} (h : IsToolsetName server name) :
    Name.IsClassName name := by
  obtain ⟨claimed, next, suffixes, h⟩ := h
  exact (Name.Allocated.toolset claimed next server suffixes h).isClassName

theorem isClassName_aggregateName : Name.IsClassName aggregateName where
  startsWithLetter := ⟨'M', "cpToolset".toList, rfl, by decide⟩
  isAlphanum := List.all_eq_true.1 (by decide)
  notKeyword := by decide
  startsWithCapital := ⟨'M', "cpToolset".toList, rfl, by decide⟩

/-! ## Dotted names -/

/-- A text without dots around it does not start with a dot. -/
theorem head?_trimDots (namespaceName : String) :
    (trimDots namespaceName).toList.head? ≠ some '.' := by
  have hstart : (namespaceName.toList.dropWhile (· == '.')).head? ≠ some '.' := by
    intro hdot
    have hfirst := List.head?_dropWhile_not (· == '.') namespaceName.toList
    rw [hdot] at hfirst
    simp at hfirst
  rw [trimDots, String.toList_ofList]
  generalize namespaceName.toList.dropWhile (· == '.') = start at hstart ⊢
  -- what is dropped at the end leaves a front
  have hfront : (start.reverse.dropWhile (· == '.')).reverse <+: start := by
    have hsuffix := List.dropWhile_suffix (l := start.reverse) (· == '.')
    rwa [← List.reverse_prefix, List.reverse_reverse] at hsuffix
  obtain ⟨rest, hrest⟩ := hfront
  intro hdot
  rw [← hrest, List.head?_append, hdot] at hstart
  exact hstart rfl

namespace Importer

/-- A dotted name with an empty first name is empty or starts with a dot. -/
theorem eq_empty_of_namesOf {dotted : String} {names : List String}
    (hdot : dotted.toList.head? ≠ some '.') (h : namesOf dotted = "" :: names) : dotted = "" := by
  have hjoin := joinWith_namesOf dotted
  rw [h] at hjoin
  cases names with
  | nil => exact hjoin.symm
  | cons name names =>
    have hchars := congrArg String.toList hjoin
    rw [Text.joinWith, String.toList_intercalate] at hchars
    rw [← hchars] at hdot
    exact absurd rfl hdot

/-- A dotted name that is not relative can be imported if its names can. -/
theorem isSome_meant?_of_ne (rule : NameRule) {dotted first : String} {rest : List String}
    (hfirst : first ≠ "") (h : namesOf dotted = first :: rest) (package : List String) :
    (meant? rule package dotted).isSome
      = (first :: rest).all fun name => (rule.nameOf? name).isSome := by
  rw [meant?, h]
  split
  · rename_i heq
    exact absurd (List.cons.inj heq).1 hfirst
  · rw [Option.isSome_map, isSome_mapM_nameOf?]

/-- Class names behind a namespace can be imported exactly if the namespace can. -/
theorem isSome_meant?_eq (rule : NameRule) {namespaceName dotted : String} {names : List String}
    (hnames : ∀ name ∈ names, Name.IsClassName name)
    (hdotted : namesOf dotted = namesOf (trimDots namespaceName) ++ names)
    (package : List String) :
    (meant? rule package dotted).isSome = (meant? rule package (trimDots namespaceName)).isSome := by
  have hread : ∀ name ∈ names, rule.nameOf? name = some name :=
    fun name hname => nameOf?_of_isIdentifier rule (hnames name hname).toIsIdentifier
  have hall : (names.all fun name => (rule.nameOf? name).isSome) = true := by
    rw [← isSome_mapM_nameOf?, mapM_nameOf? hread]
    rfl
  cases hnamespace : namesOf (trimDots namespaceName) with
  | nil => exact absurd hnamespace (namesOf_ne_nil _)
  | cons first rest =>
    rw [hnamespace, List.cons_append] at hdotted
    by_cases hfirst : first = ""
    · -- the namespace is empty, so that both are relative
      subst hfirst
      have hempty := eq_empty_of_namesOf (head?_trimDots namespaceName) hnamespace
      have hone : namesOf "" = [""] := rfl
      rw [hempty, hone] at hnamespace
      obtain ⟨-, rfl⟩ := List.cons.inj hnamespace
      rw [hempty, meant?, meant?, hdotted, hone, List.nil_append]
      simp [mapM_nameOf? hread]
    · rw [isSome_meant?_of_ne rule hfirst hdotted, isSome_meant?_of_ne rule hfirst hnamespace,
        ← List.cons_append, List.all_append, hall, Bool.and_true]

end Importer

/-! ## Planned files -/

/-- A file that a plan may hold: a module of a class or of the aggregate under the dotted name of its
place, or a marker. -/
inductive PlannedFile.Placed (g : GeneratedSettings) : PlannedFile → Prop where
  | inPackage {package name : String} (hpackage : Name.IsClassName package)
      (hname : Name.IsClassName name) (source : String) :
      Placed g (.module ((g.base.child package).child (moduleFile name))
        (dottedName (trimDots g.namespaceName) package name) source)
  | aggregate (source : String) : Placed g (.module g.aggregatePath g.aggregateModule source)
  | packageMarker {package : String} (hpackage : Name.IsClassName package) :
      Placed g (.marker (g.base.child package))
  | marker : Placed g (.marker g.base)

theorem Descriptor.Made.placed {g : GeneratedSettings} {d : Descriptor} (h : d.Made g) :
    d.file.Placed g := by
  rw [file, h.path, h.module]
  exact .inPackage (Name.isClassName_package d.server) h.named.isClassName d.source

/-- Every file of a plan has its place. -/
theorem Plan.placed_of_mem {g : GeneratedSettings} {suffixes : Bool}
    {definitions : List Definition} {f : PlannedFile}
    (h : f ∈ (ofDefinitions g suffixes definitions).files) : f.Placed g := by
  obtain ⟨descriptors, hdescribe, ⟨d, hd, rfl⟩ | htoolset | haggregate⟩ := mem_files_cases h
  · rw [← hdescribe] at hd
    exact (made_of_mem_describe hd).1.placed
  · -- a toolset has its name for its server alone, so that it is in the package of the server
    obtain ⟨named, hnamed, hfiles, -⟩ :=
      files_toolsets g suffixes descriptors .empty (serversOf descriptors)
    rw [hfiles] at htoolset
    obtain ⟨n, hn, hf⟩ := List.mem_flatMap.1 htoolset
    have hpackage := Name.isClassName_package n.1
    rw [toolsetFiles, List.mem_pair] at hf
    rcases hf with rfl | rfl
    · exact .inPackage hpackage (hnamed.given n hn).isClassName _
    · exact .packageMarker hpackage
  · rw [aggregateFiles, List.mem_pair] at haggregate
    rcases haggregate with rfl | rfl
    · exact .aggregate _
    · exact .marker

/-- A path that a generation may write to. -/
inductive GeneratedSettings.Output (g : GeneratedSettings) : Path → Prop where
  | aggregate : Output g (g.base.child "McpToolset.py")
  | marker : Output g (g.base.child "__init__.py")
  | packageMarker {package : String} (hpackage : Name.IsClassName package) :
      Output g ((g.base.child package).child "__init__.py")
  | module {package name : String} (hpackage : Name.IsClassName package)
      (hname : Name.IsClassName name) : Output g ((g.base.child package).child (name ++ ".py"))

/-- A path that a generation may remove something at: a file, or a directory with all that is in
it. -/
inductive GeneratedSettings.Replaced (g : GeneratedSettings) : Path → Prop where
  | aggregate : Replaced g (g.base.child "McpToolset.py")
  | package {package : String} (hpackage : Name.IsClassName package) :
      Replaced g (g.base.child package)

theorem PlannedFile.Placed.output {g : GeneratedSettings} {f : PlannedFile} (h : f.Placed g) :
    g.Output f.path := by
  cases h with
  | inPackage hpackage hname => exact .module hpackage hname
  | aggregate => exact .aggregate
  | packageMarker hpackage => exact .packageMarker hpackage
  | marker => exact .marker

/-- The names of a module of a plan are those of the namespace and class names. -/
theorem PlannedFile.Placed.namesOf {g : GeneratedSettings} {path : Path} {name source : String}
    (h : (PlannedFile.module path name source).Placed g) :
    ∃ names, (∀ n ∈ names, Name.IsClassName n) ∧
      Importer.namesOf name = Importer.namesOf (trimDots g.namespaceName) ++ names := by
  cases h with
  | @inPackage package name hpackage hname =>
    refine ⟨[package, name], by simp [hpackage, hname], ?_⟩
    rw [Importer.namesOf_dottedName _ hpackage.toIsIdentifier hname.toIsIdentifier,
      List.append_assoc, List.singleton_append]
  | aggregate =>
    refine ⟨[aggregateName], by simp [isClassName_aggregateName], ?_⟩
    rw [GeneratedSettings.aggregateModule, Importer.namesOf_append,
      Importer.namesOf_of_isIdentifier isClassName_aggregateName.toIsIdentifier]

namespace Plan

variable {g : GeneratedSettings} {suffixes : Bool}

/-- A plan writes the modules of its descriptors. -/
theorem file_mem_files {definitions : List Definition} {d : Descriptor}
    (h : d ∈ (describe g suffixes .empty (ordered definitions)).1) :
    d.file ∈ (ofDefinitions g suffixes definitions).files := by
  rw [ofDefinitions]
  generalize describe g suffixes .empty (ordered definitions) = described at *
  obtain ⟨descriptors, collision⟩ := described
  have hfile : d.file ∈ descriptors.map Descriptor.file := List.mem_map_of_mem h
  dsimp only
  split
  · exact hfile
  · exact List.mem_append_left _ (List.mem_append_left _ hfile)

/-- A lone tool gets the name that it asks for. -/
theorem file_mem_of_single (g : GeneratedSettings) (suffixes : Bool) (d : Definition) :
    (Descriptor.ofDefinition g d (Name.toolBase d.server d.tool.name)).file
      ∈ (ofDefinitions g suffixes [d]).files := by
  have hallocate : Name.Claimed.empty.allocateTool d.server d.tool.name suffixes
      = .ok (Name.toolBase d.server d.tool.name,
          Name.Claimed.empty.claim (Name.toolBase d.server d.tool.name)) := by
    rw [Name.Claimed.allocateTool, Name.Claimed.allocate,
      if_neg (Name.Claimed.not_mem_empty _)]
  refine file_mem_files ?_
  rw [ordered, Text.sortedByPair, sortBy_singleton, describe, hallocate]
  exact List.mem_singleton_self _

end Plan

namespace CommandRun

/-! ## The command -/

theorem replaced_of_mem_cleanTargets {g : GeneratedSettings} {servers : List Server} {p : Path}
    (h : p ∈ cleanTargets g servers) : g.Replaced p := by
  rcases List.mem_append.1 h with h | h
  · obtain ⟨server, -, rfl⟩ := List.mem_map.1 h
    exact .package (Name.isClassName_package server.slug)
  · rw [List.mem_singleton.1 h]
    exact .aggregate

/-- Whatever comes of a generation, it writes to outputs and removes what is replaced. -/
theorem changes_outputs (run : CommandRun) (wanted : List String) (options : GenerateOptions)
    (w : Workspace) :
    FileTree.Changes run.tag run.project.settings.generated.Output
      run.project.settings.generated.Replaced w.files
      (run.generate wanted options w).2.files := by
  cases hselect : run.project.settings.selectServers wanted with
  | error fault =>
    rw [files_generate_of_error hselect]
    exact .refl _
  | ok servers =>
    refine (changes_generate hselect options w).mono (fun p hp => ?_)
      fun p hp => replaced_of_mem_cleanTargets hp.2.2
    obtain ⟨-, f, hf, rfl⟩ := hp
    exact (Plan.placed_of_mem hf).output

/-- Whatever servers and tools are called, and whatever names were claimed before: what names come
of them are class names; a generation, however it ends, writes to outputs and removes what is
replaced, and if there are no links nothing else comes of it than what stands there; and its dotted
names are the namespace with class names behind it, which can be imported exactly if the namespace
can. -/
theorem outputs_stay_inside :
    (∀ server, Name.IsClassName (Name.package server)) ∧
    (∀ (claimed : Name.Claimed) (server tool : String) (suffixes : Bool),
      claimed.GivesClassName (Name.toolBase server tool) suffixes
          (claimed.allocateTool server tool suffixes) ∧
        claimed.GivesClassName (Name.toolsetBase server) suffixes
          (claimed.allocateToolset server suffixes)) ∧
    (∀ (run : CommandRun) (wanted : List String) (options : GenerateOptions) (w : Workspace),
      FileTree.Changes run.tag run.project.settings.generated.Output
          run.project.settings.generated.Replaced w.files
          (run.generate wanted options w).2.files ∧
        (w.files.Plain → FileTree.Confined
          (FileTree.Changes.Reaches run.project.settings.generated.Output
            run.project.settings.generated.Replaced w.files)
          w.files (run.generate wanted options w).2.files)) ∧
    ∀ (g : GeneratedSettings) (suffixes : Bool) (definitions : List Definition)
      (path : Path) (name source : String),
      .module path name source ∈ (Plan.ofDefinitions g suffixes definitions).files →
        g.Output path ∧
        ∃ names, (∀ n ∈ names, Name.IsClassName n) ∧
          Importer.namesOf name = Importer.namesOf (trimDots g.namespaceName) ++ names ∧
          ∀ rule package, (Importer.meant? rule package name).isSome
            = (Importer.meant? rule package (trimDots g.namespaceName)).isSome := by
  refine ⟨Name.isClassName_package, fun claimed server tool suffixes => ?_,
    fun run wanted options w => ?_, fun g suffixes definitions path name source hmem => ?_⟩
  · exact ⟨claimed.givesClassName_allocateTool server tool suffixes,
      claimed.givesClassName_allocateToolset server suffixes⟩
  · have hchanges := run.changes_outputs wanted options w
    exact ⟨hchanges, hchanges.confined⟩
  · have hplaced := Plan.placed_of_mem hmem
    obtain ⟨names, hnames, hdotted⟩ := hplaced.namesOf
    exact ⟨hplaced.output, names, hnames, hdotted,
      fun rule => Importer.isSome_meant?_eq rule hnames hdotted⟩

/-- A tool of a server, both with names that would lead out of a directory. -/
def strayDefinition : Definition := ⟨"../crm", ⟨"/etc/search", "search", []⟩⟩

theorem outputs_stay_inside_stray :
    Name.package strayDefinition.server = "Crm" ∧ Name.IsClassName "Crm" ∧
      crmWorkspace.files.Plain ∧
      FileTree.Confined
        (FileTree.Changes.Reaches crm.project.settings.generated.Output
          crm.project.settings.generated.Replaced crmWorkspace.files)
        crmWorkspace.files (crm.generate [] plain crmWorkspace).2.files ∧
      ∃ path source, .module path "generated_tools.Crm.CrmEtcSearchTool" source
          ∈ (Plan.ofDefinitions .default true [strayDefinition]).files ∧
        GeneratedSettings.default.Output path := by
  obtain ⟨hpackage, -, hrun, hplan⟩ := outputs_stay_inside
  have hname : Name.package strayDefinition.server = "Crm" := by decide +kernel
  have hmem := Plan.file_mem_of_single .default true strayDefinition
  have hdotted : (Descriptor.ofDefinition .default strayDefinition
      (Name.toolBase strayDefinition.server strayDefinition.tool.name)).module
        = "generated_tools.Crm.CrmEtcSearchTool" := by decide +kernel
  rw [Descriptor.file, hdotted] at hmem
  exact ⟨hname, hname ▸ hpackage strayDefinition.server, plain_crmWorkspace,
    (hrun crm [] plain crmWorkspace).2 plain_crmWorkspace, _, _, hmem, (hplan _ _ _ _ _ _ hmem).1⟩

/-- A namespace that no import can name leaves the modules below it without a name. -/
theorem not_importable_my_tools :
    ∃ path source, .module path "my-tools.Crm.CrmSearchTool" source
        ∈ (Plan.ofDefinitions ⟨"my-tools", "my-tools"⟩ true
            [⟨"crm", ⟨"search", "search", []⟩⟩]).files ∧
      ∀ rule, Importer.meant? rule ["my-tools"] "my-tools.Crm.CrmSearchTool" = none := by
  have hmem := Plan.file_mem_of_single ⟨"my-tools", "my-tools"⟩ true
    ⟨"crm", ⟨"search", "search", []⟩⟩
  have hdotted : (Descriptor.ofDefinition ⟨"my-tools", "my-tools"⟩
      ⟨"crm", ⟨"search", "search", []⟩⟩ (Name.toolBase "crm" "search")).module
        = "my-tools.Crm.CrmSearchTool" := by decide +kernel
  rw [Descriptor.file, hdotted] at hmem
  have hnames : Importer.namesOf "my-tools.Crm.CrmSearchTool"
      = ["my-tools", "Crm", "CrmSearchTool"] := by decide +kernel
  refine ⟨_, _, hmem, fun rule => ?_⟩
  -- a hyphen is in no identifier
  have hnone : rule.nameOf? "my-tools" = none := by
    rw [rule.ascii "my-tools" (by decide)]
    decide
  simp [Importer.meant?, hnames, hnone]

end CommandRun
end ToolBindings
