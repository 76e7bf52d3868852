import ToolBindings.Proofs.Command.Package

/-!
# Passes over a package

What is written in a pass is written at the place that its path says, and outputs at one place are
one (`GeneratedSettings.Output.eq_of_placeOf`), so that in a tree without links no file of a pass
takes the place of another (`CommandRun.stands_of_writeAll`).
-/

namespace ToolBindings

/-! ## Places of outputs -/

theorem Name.IsClassName.ne_up {name : String} (h : IsClassName name) : name ≠ ".." := by
  rintro rfl
  have hchar := h.isAlphanum '.' (by decide)
  revert hchar
  decide

namespace GeneratedSettings.Output

variable {g : GeneratedSettings} {p p' : Path}

/-- An output is below the directory of generated files, in the tree as in its path. -/
theorem exists_below (h : g.Output p) :
    ∃ below, p = ⟨g.base.anchor, g.base.names ++ below⟩ ∧
      ∀ t : FileTree, t.placeOf p = t.placeOf g.base ++ below := by
  have hone {name : String} (hup : name ≠ "..") : ∃ below,
      g.base.child name = ⟨g.base.anchor, g.base.names ++ below⟩ ∧
        ∀ t : FileTree, t.placeOf (g.base.child name) = t.placeOf g.base ++ below :=
    ⟨[name], rfl, fun t => t.placeOf_child g.base hup⟩
  have htwo {package name : String} (hpackage : Name.IsClassName package) (hup : name ≠ "..") :
      ∃ below, (g.base.child package).child name = ⟨g.base.anchor, g.base.names ++ below⟩ ∧
        ∀ t : FileTree, t.placeOf ((g.base.child package).child name)
          = t.placeOf g.base ++ below := by
    refine ⟨[package, name], ?_, fun t => ?_⟩
    · rw [Path.child, Path.child, List.append_assoc, List.singleton_append]
    · rw [t.placeOf_child _ hup, t.placeOf_child _ hpackage.ne_up, List.append_assoc,
        List.singleton_append]
  cases h with
  | aggregate => exact hone (by decide)
  | marker => exact hone (by decide)
  | packageMarker hpackage => exact htwo hpackage (by decide)
  | module hpackage hname => exact htwo hpackage (CommandRun.moduleFile_ne_up _)

/-- Outputs at one place are one. -/
theorem eq_of_placeOf (h : g.Output p) (h' : g.Output p') {t : FileTree}
    (hplace : t.placeOf p = t.placeOf p') : p = p' := by
  obtain ⟨below, rfl, hbelow⟩ := h.exists_below
  obtain ⟨below', rfl, hbelow'⟩ := h'.exists_below
  rw [hbelow, hbelow', List.append_cancel_left_eq] at hplace
  rw [hplace]

end GeneratedSettings.Output

/-! ## What a pass leaves -/

/-- What a pass over a tree leaves of a planned file: a module is read as it was written, and a marker
is the text of markers or what stood there before, unless a directory is in its place. -/
def PlannedFile.Stands (before after : FileTree) : PlannedFile → Prop
  | .module path _ source => after.read path = .ok (Text.Utf8.encode source)
  | .marker directory =>
    let path := directory.child packageMarker
    (∃ octets, after.read path = .ok octets ∧
      (octets = Text.Utf8.encode CommandRun.markerText ∨
        before.at? (before.placeOf path) = some (.file octets))) ∨
      after.isDirectory path = .ok true

namespace CommandRun

variable {run : CommandRun} {w w' : Workspace}

/-- A file stays what it is while files elsewhere are written, and while markers are that are there
already. -/
theorem read_writePlanned (hplain : w.files.Plain) {f : PlannedFile}
    (h : run.writePlanned false f w = (.ok (), w')) {p : Path} {octets : List UInt8}
    (hread : w.files.read p = .ok octets)
    (hf : w.files.placeOf f.path = w.files.placeOf p →
      ∃ directory, f = .marker directory ∧ p = directory.child packageMarker) :
    w'.files.read p = .ok octets := by
  by_cases hplace : w.files.placeOf f.path = w.files.placeOf p
  · obtain ⟨directory, rfl, rfl⟩ := hf hplace
    simp only [writePlanned, Bool.false_eq_true, if_false, FileTree.isPresent_of_read hread] at h
    cases h
    exact hread
  · have helsewhere (q : Path) (hq : false = false ∧ q = f.path) :
        w.files.placeOf q ≠ w.files.placeOf p := hq.2 ▸ hplace
    have hkept := (changes_writePlanned run false f w).read_of_writes hplain helsewhere hread
    rwa [h] at hkept

theorem read_writeAll (hplain : w.files.Plain) {files : List PlannedFile}
    (h : run.writeAll false files w = (.ok (), w')) {p : Path} {octets : List UInt8}
    (hread : w.files.read p = .ok octets)
    (hfiles : ∀ f ∈ files, w.files.placeOf f.path = w.files.placeOf p →
      ∃ directory, f = .marker directory ∧ p = directory.child packageMarker) :
    w'.files.read p = .ok octets := by
  induction files generalizing w with
  | nil =>
    cases h
    exact hread
  | cons f files ih =>
    obtain ⟨between, hfirst, hrest⟩ := writeAll_cons h
    have hgrows := grows_writePlanned hfirst
    refine ih (hplain.grows hgrows) hrest
      (read_writePlanned hplain hfirst hread (hfiles f List.mem_cons_self)) fun f' hf' => ?_
    rw [hgrows.placeOf, hgrows.placeOf]
    exact hfiles f' (List.mem_cons_of_mem f hf')

section

variable {g : GeneratedSettings} {files : List PlannedFile} (hplain : w.files.Plain)
variable (houtputs : ∀ f ∈ files, g.Output f.path) (h : run.writeAll false files w = (.ok (), w'))

include hplain houtputs h

/-- What is read of a file stays while others are written that are not written to its path. -/
private theorem read_of_apart {f : PlannedFile} (hf : g.Output f.path)
    (hapart : ∀ f' ∈ files, f.Apart f') {octets : List UInt8}
    (hread : w.files.read f.path = .ok octets) : w'.files.read f.path = .ok octets := by
  refine read_writeAll hplain h hread fun f' hf' hplace => ?_
  have hpath := (houtputs f' hf').eq_of_placeOf hf hplace
  obtain ⟨directory, rfl, rfl⟩ := hapart f' hf' hpath.symm
  exact ⟨directory, rfl, rfl⟩

/-- A marker that is read behind files of which none is this marker was there before them. -/
private theorem at?_of_marker {directory : Path} (hmarker : g.Output (directory.child packageMarker))
    (hapart : ∀ f ∈ files, f.Apart (.marker directory)) (hnew : .marker directory ∉ files)
    {octets : List UInt8} (hread : w'.files.read (directory.child packageMarker) = .ok octets) :
    w.files.at? (w.files.placeOf (directory.child packageMarker)) = some (.file octets) := by
  have hgrows := grows_writeAll h
  have hfile := ((hplain.grows hgrows).read_eq_ok.1 hread).2
  rw [hgrows.placeOf] at hfile
  have helsewhere (q : Path) (hq : false = false ∧ ∃ f ∈ files, q = f.path) :
      w.files.placeOf q ≠ w.files.placeOf (directory.child packageMarker) := by
    obtain ⟨-, f, hf, rfl⟩ := hq
    intro hplace
    obtain ⟨_, rfl, hsame⟩ := hapart f hf ((houtputs f hf).eq_of_placeOf hmarker hplace)
    exact hnew (hsame ▸ hf)
  have hat := (changes_writeAll run false files w).at?_of_writes hplain helsewhere
  rw [h] at hat
  rcases hat with hsame | ⟨-, hmade⟩
  · rwa [hsame] at hfile
  · rw [hmade] at hfile
    cases hfile

end

/-- A pass over files of which no two are written to one path leaves each of them. -/
theorem stands_of_writeAll {g : GeneratedSettings} (hplain : w.files.Plain)
    {files : List PlannedFile} (houtputs : ∀ f ∈ files, g.Output f.path)
    (hapart : files.Pairwise PlannedFile.Apart)
    (h : run.writeAll false files w = (.ok (), w')) :
    ∀ f ∈ files, f.Stands w.files w'.files := by
  intro f hf
  -- a marker may come again, and is written the first time alone
  obtain ⟨before, after, rfl, hfirst⟩ := List.eq_append_cons_of_mem hf
  obtain ⟨u, hbefore, hrest⟩ := writeAll_append h
  obtain ⟨v, hwrite, hafter⟩ := writeAll_cons hrest
  have hu : u.files.Plain := hplain.grows (grows_writeAll hbefore)
  have hv : v.files.Plain := hu.grows (grows_writePlanned hwrite)
  obtain ⟨hout, hout'⟩ := List.forall_mem_append.1 houtputs
  rw [List.forall_mem_cons] at hout'
  obtain ⟨-, hlater, hearlier⟩ := List.pairwise_append.1 hapart
  have hkept {octets : List UInt8} (hread : v.files.read f.path = .ok octets) :
      w'.files.read f.path = .ok octets :=
    read_of_apart hv hout'.2 hafter hout'.1 (List.pairwise_cons.1 hlater).1 hread
  cases f with
  | module path name source => exact hkept (hu.read_of_writeAtomic (writeAtomic_of_module hwrite))
  | marker directory =>
    simp only [writePlanned, Bool.false_eq_true, if_false] at hwrite
    split at hwrite
    · cases hwrite
    · rename_i hpresent
      cases hwrite
      rcases hu.read_or_isDirectory_of_isPresent hpresent with ⟨octets, hread⟩ | hdirectory
      · exact Or.inl ⟨octets, hkept hread, Or.inr (at?_of_marker hplain hout hbefore hout'.1
          (fun f hf => hearlier f hf _ List.mem_cons_self) hfirst hread)⟩
      · exact Or.inr (hu.isDirectory_grows (grows_writeAll hafter) hdirectory)
    · split at hwrite
      · rename_i files hwritten
        cases hwrite
        exact Or.inl ⟨_, hkept (hu.read_of_writeAtomic hwritten), Or.inl rfl⟩
      · cases hwrite

/-- What stands outside of the directory of generated files is read as before a generation that does
not clean. -/
theorem read_of_aside (hplain : w.files.Plain) {options : GenerateOptions}
    (hkeep : options.clean = false) {p : Path}
    (haside : ¬w.files.placeOf run.project.settings.generated.base <+: w.files.placeOf p)
    {octets : List UInt8} (hread : w.files.read p = .ok octets) (wanted : List String) :
    (run.generate wanted options w).2.files.read p = .ok octets := by
  cases hselect : run.project.settings.selectServers wanted with
  | error fault => rwa [files_generate_of_error hselect]
  | ok servers =>
    have hnone (q : Path) (hq : run.Removes options servers q) : False := by
      have hclean := hq.2.1
      rw [hkeep] at hclean
      cases hclean
    have hchanges : FileTree.Changes run.tag (run.Writes options servers w) (fun _ => False) w.files
        (run.generate wanted options w).2.files :=
      (changes_generate hselect options w).mono (fun _ => id) hnone
    refine hchanges.read_of_writes hplain ?_ hread
    rintro q ⟨-, f, hf, rfl⟩ hplace
    obtain ⟨below, -, hbelow⟩ := (Plan.placed_of_mem hf).output.exists_below
    exact haside ⟨below, (hbelow _).symm.trans hplace⟩

end CommandRun

namespace Plan

theorem map_describe {g : GeneratedSettings} {suffixes : Bool} {claimed : Name.Claimed}
    {definitions : List Definition} (h : (describe g suffixes claimed definitions).2 = none) :
    (describe g suffixes claimed definitions).1.map (fun d => (d.server, d.tool))
      = definitions.map fun d => (d.server, d.tool.name) := by
  induction definitions generalizing claimed with
  | nil => rfl
  | cons d rest ih =>
    rw [describe] at h ⊢
    split
    · rename_i hcollision
      rw [hcollision] at h
      cases h
    · rename_i hname
      rw [hname] at h
      exact congrArg ((d.server, d.tool.name) :: ·) (ih h)

/-- In a tree without links a pass over a plan without a collision leaves every file as it was
written. -/
theorem stands_of_collision {g : GeneratedSettings} {suffixes : Bool} {definitions : List Definition}
    {run : CommandRun} {w w' : Workspace} (hplain : w.files.Plain)
    (hwrite : run.writeAll false (ofDefinitions g suffixes definitions).files w = (.ok (), w')) :
    ∀ f ∈ (ofDefinitions g suffixes definitions).files, f.Stands w.files w'.files :=
  CommandRun.stands_of_writeAll hplain (fun _ hf => (placed_of_mem hf).output)
    (pairwise_apart_ofDefinitions g suffixes definitions) hwrite

/-! ## What the modules list -/

/-- A text lists classes in an order: their names stand at its end, and unless the namespace has a
blank or a line end, the text reads as the class with exactly their imports. -/
structure Shows (g : GeneratedSettings) (name : String) (listing : List Descriptor) (text : String) :
    Prop where
  names : ToolsetModule.listed? text = some (listing.map Descriptor.className)
  module : (∀ c ∈ (trimDots g.namespaceName).toList, c ≠ ' ' ∧ c ≠ '\n') →
    ToolsetModule.read? text = some ⟨name, listing.map Descriptor.classImport⟩

theorem shows_write {g : GeneratedSettings} {name : String} {listing : List Descriptor}
    (hmade : ∀ d ∈ listing, d.Made g) (hsome : listing ≠ []) (hname : Name.IsIdentifier name) :
    Shows g name listing (ToolsetModule.write ⟨name, listing.map Descriptor.classImport⟩) := by
  constructor
  · rw [ToolsetModule.listed?_write (by simpa using hsome)
      (List.forall_mem_map.2 fun d hd => (hmade d hd).named.isIdentifier.isNameChar), List.map_map]
    rfl
  · intro hblank
    exact ToolsetModule.read?_write hname.isNameChar
      (List.forall_mem_map.2 fun d hd => (hmade d hd).plain_classImport hblank)

/-- A package by its descriptors, the classes that its aggregate lists, and its toolsets by server and
class name. -/
structure Package where
  descriptors : List Descriptor
  listing : List Descriptor
  named : List (String × String)

/-- A plan for definitions writes a package whose parts agree. -/
structure Package.Consistent (package : Package) (g : GeneratedSettings)
    (definitions : List Definition) (plan : Plan) : Prop where
  /-- There is a descriptor for every definition. -/
  described : package.descriptors.map (fun d => (d.server, d.tool))
    = (ordered definitions).map fun d => (d.server, d.tool.name)
  listing : Listing package.descriptors package.listing
  parts : Parts package.listing package.named
  files : plan.files = packageFiles g package.descriptors package.listing package.named
  apart : plan.files.Pairwise PlannedFile.Apart
  /-- The text of the aggregate lists the class of every descriptor once. -/
  aggregate : package.listing ≠ [] → ∃ text,
    .module g.aggregatePath g.aggregateModule text ∈ plan.files ∧
      Shows g aggregateName package.listing text
  /-- The text of a toolset lists those of them that are its server's. -/
  toolsets : ∀ n ∈ package.named, ∃ text,
    .module (g.classPath n.1 n.2) (g.className n.1 n.2) text ∈ plan.files ∧
      Shows g n.2 (package.listing.filter (·.server == n.1)) text
  /-- In a tree without links a pass leaves every file as it was written. -/
  stands : ∀ (run : CommandRun) (w w' : Workspace), w.files.Plain →
    run.writeAll false plan.files w = (.ok (), w') → ∀ f ∈ plan.files, f.Stands w.files w'.files

/-- A plan that ends without a collision is consistent: it has a descriptor for every definition, no
two of its files are written to one path, its aggregate lists the class of every descriptor once,
and the lists of its toolsets are the parts of that list. In a tree without links a pass over it
leaves every file as it was written. -/
theorem consistent_of_collision {g : GeneratedSettings} {suffixes : Bool}
    {definitions : List Definition}
    (hcollision : (ofDefinitions g suffixes definitions).collision = none) :
    ∃ package : Package, package.Consistent g definitions (ofDefinitions g suffixes definitions) := by
  obtain ⟨named, hnamed, hservers, hfiles⟩ := files_eq_packageFiles rfl hcollision
  generalize hdescriptors : (describe g suffixes .empty (ordered definitions)).1 = descriptors
    at hservers hfiles
  have hmade : ∀ d ∈ descriptors, d.Made g :=
    fun d hd => (made_of_mem_describe (hdescriptors ▸ hd)).1
  have hnodup : (descriptors.map Descriptor.className).Nodup :=
    hdescriptors ▸ nodup_describe .empty (ordered definitions)
  have hall : descriptors.map (fun d => (d.server, d.tool))
      = (ordered definitions).map fun d => (d.server, d.tool.name) :=
    hdescriptors ▸ map_describe (describe_of_collision hcollision)
  have hlisting := listing_byModule hmade hnodup
  have hparts := parts_of_listing hlisting hservers
  have hlisted : ∀ d ∈ Descriptor.byModule descriptors, d.Made g :=
    fun d hd => hmade d (hlisting.perm.mem_iff.1 hd)
  refine ⟨⟨descriptors, Descriptor.byModule descriptors, named⟩, hall, hlisting, hparts, hfiles,
    pairwise_apart_ofDefinitions g suffixes definitions, fun hsome => ?_, fun n hn => ?_,
    fun run w w' hplain hwrite => stands_of_collision hplain hwrite⟩
  · refine ⟨_, ?_, shows_write hlisted hsome isClassName_aggregateName.toIsIdentifier⟩
    rw [hfiles, packageFiles, aggregateListed, if_neg (by simpa using hsome)]
    simp
  · -- a server with a toolset has classes
    obtain ⟨d, hd, hserver⟩ := (hparts.servers n.1).1 (List.mem_map_of_mem hn)
    have hsome : (Descriptor.byModule descriptors).filter (·.server == n.1) ≠ [] :=
      List.ne_nil_of_mem (List.mem_filter.2 ⟨hd, by simpa using hserver⟩)
    refine ⟨_, ?_, shows_write (fun d hd => hlisted d (List.mem_of_mem_filter hd)) hsome
      (hnamed.given n hn).isClassName.toIsIdentifier⟩
    rw [hfiles, packageFiles, List.mem_append, List.mem_append]
    exact Or.inr (Or.inl (List.mem_flatMap.2 ⟨n, hn, by simp [listedFiles]⟩))

theorem plain_sharedWorkspace : CommandRun.sharedWorkspace.files.Plain :=
  FileTree.plain_of_entries (by simp [CommandRun.sharedWorkspace])

theorem consistent_of_collision_shared :
    (ofDefinitions .default true CommandRun.sharedDefinitions).collision = none ∧
      ∃ package : Package,
        package.Consistent .default CommandRun.sharedDefinitions
          (ofDefinitions .default true CommandRun.sharedDefinitions) ∧
        package.descriptors.map (fun d => (d.server, d.tool))
          = [("a b", "x"), ("a b", "y"), ("a-b", "x")] ∧
        ∀ f ∈ (ofDefinitions .default true CommandRun.sharedDefinitions).files,
          f.Stands CommandRun.sharedWorkspace.files
            (CommandRun.shared.generate [] CommandRun.plain CommandRun.sharedWorkspace).2.files := by
  obtain ⟨hcollision, read, written, hread, hwrite, hfiles⟩ := CommandRun.generate_success
    CommandRun.generate_shared CommandRun.selectServers_shared (List.cons_ne_nil _ _)
  have hplan := CommandRun.plan_shared
  rw [CommandRun.cleaned_of_keeping _ rfl] at hread
  rw [hplan] at hcollision hwrite
  obtain ⟨package, hpackage⟩ := consistent_of_collision hcollision
  refine ⟨hcollision, package, hpackage, hpackage.described, ?_⟩
  rw [hfiles, ← hread]
  exact hpackage.stands CommandRun.shared read written (hread ▸ plain_sharedWorkspace) hwrite

end Plan
end ToolBindings
