import ToolBindings.Proofs.Command.Changes
import ToolBindings.Proofs.Command.Generating
import ToolBindings.Proofs.Command.Imported
import ToolBindings.Proofs.Command.Replay
import ToolBindings.Proofs.Data.Sorted

/-!
# Generated modules loaded back

The aggregate that a generation has written lists the classes of all descriptors. `load_generated_iff`
says when it can be loaded: nothing may come before a module under its name, and every descriptor has
to name a server and a tool. One that does not makes all of them unusable.
-/

namespace ToolBindings

section

variable {importer : Importer} {g : GeneratedSettings} {descriptors : List Descriptor}

/-! ## The aggregate -/

namespace Importer

/-- The aggregate that stands where it was written is read as what it was written for, and what it
imports is loaded, unless a package comes before it. -/
theorem load_aggregate (hserves : importer.Serves g) (hmade : ∀ d ∈ descriptors, d.Made g)
    (hwritten : importer.files.Written g.aggregatePath
      (ToolsetModule.write ⟨aggregateName, Descriptor.imports descriptors⟩))
    (hclear : importer.lookUp g.base aggregateName
      ≠ some (.package (g.base.child aggregateName))) :
    importer.load g.aggregateModule
      = ((Descriptor.imports descriptors).mapM
          (importer.loadImport (namesOf g.aggregateModule).dropLast)).map
        (.toolset aggregateName) := by
  have hparent : g.aggregatePath.parent = g.base := Path.parent_child _ _
  have hread := hwritten.read (by rw [hparent]; exact hserves.isDirectory)
  have hlocate : importer.locate g.aggregateModule = .ok (.file g.aggregatePath) := by
    rw [hserves.locate_aggregate, follow_one_eq_file]
    exact lookUp_of_isFile (FileTree.isFile_eq_true.2 ⟨_, hread⟩) hclear
  have htext := textOf_eq_ok hread
  have hplain : ∀ i ∈ Descriptor.imports descriptors,
      i.Plain ∧ i.module ≠ "mcpforge.tools.base" := by
    intro i hi
    rw [Descriptor.imports, Text.mem_sortedByPair] at hi
    obtain ⟨d, hd, rfl⟩ := List.mem_map.1 hi
    refine ⟨plain_classImport hserves (hmade d hd), fun hbase => ?_⟩
    -- the module of a tool has the `T` of `Tool` in its name
    have hT : 'T' ∈ d.classImport.module.toList := by
      rw [Descriptor.classImport, (hmade d hd).module, GeneratedSettings.className, dottedName,
        String.toList_append]
      exact List.mem_append_right _ (hmade d hd).named.mem_T
    rw [hbase] at hT
    revert hT
    decide
  have hname : ∀ c ∈ aggregateName.toList, Literal.isNameChar c = true := List.all_eq_true.1 rfl
  have hnotTool := ToolModule.read?_toolset (m := ⟨aggregateName, Descriptor.imports descriptors⟩)
    (fun i hi => (hplain i hi).1) fun i hi => (hplain i hi).2
  have hmodule := ToolsetModule.read?_write (m := ⟨aggregateName, Descriptor.imports descriptors⟩)
    hname fun i hi => (hplain i hi).1
  rw [load, hlocate, ok_bind]
  dsimp only
  rw [htext, ok_bind, hnotTool, hmodule]
  dsimp only
  cases (Descriptor.imports descriptors).mapM
    (importer.loadImport (namesOf g.aggregateModule).dropLast) <;> rfl

end Importer

/-! ## The table -/

private theorem mapM_eq_ok {α β ε : Type} {f : α → Except ε β} {xs : List α} {ys : List β} :
    xs.mapM f = .ok ys ↔ List.Forall₂ (fun x y => f x = .ok y) xs ys := by
  induction xs generalizing ys with
  | nil => cases ys <;> simp [pure, Except.pure]
  | cons x xs ih =>
    rw [List.mapM_cons]
    cases hx : f x with
    | error e => simp [bind, Except.bind, List.forall₂_cons_left_iff, hx]
    | ok y =>
      cases hxs : xs.mapM f with
      | error e =>
        rw [hxs] at ih
        simp [bind, Except.bind, List.forall₂_cons_left_iff, hx, ← ih]
      | ok more =>
        rw [hxs] at ih
        simp only [Except.ok.injEq] at ih
        simp [bind, Except.bind, pure, Except.pure, List.forall₂_cons_left_iff, hx, ← ih, eq_comm]

/-- Classes that imports of descriptors load have the keys of these, in their order. -/
private theorem map_key_of_mapM {package : List String} {classes : List ToolClass}
    (hserves : importer.Serves g) (hmade : ∀ d ∈ descriptors, d.Made g)
    (hwritten : ∀ d ∈ descriptors, importer.files.Written d.path d.source)
    (h : (descriptors.map Descriptor.classImport).mapM (importer.loadImport package)
      = .ok classes) : classes.map ToolClass.key = descriptors.map Descriptor.key := by
  have hforall := mapM_eq_ok.1 h
  rw [List.forall₂_map_left_iff] at hforall
  induction hforall with
  | nil => rfl
  | @cons d c descriptors classes hload hrest ih =>
    rw [List.forall_mem_cons] at hmade hwritten
    have hkey := (Importer.loadImport_ok hserves hmade.1 hwritten.1 package).2 c hload
    rw [List.map_cons, List.map_cons, hkey, ih hmade.2 hwritten.2
      (mapM_eq_ok.2 (List.forall₂_map_left_iff.2 hrest))]

/-- Imports load together exactly if each of them does. -/
private theorem exists_mapM_iff {α β ε : Type} {f : α → Except ε β} {xs : List α} :
    (∃ ys, xs.mapM f = .ok ys) ↔ ∀ x ∈ xs, ∃ y, f x = .ok y := by
  induction xs with
  | nil => exact ⟨fun _ => List.forall_mem_nil _, fun _ => ⟨[], rfl⟩⟩
  | cons x xs ih =>
    rw [List.forall_mem_cons, ← ih]
    constructor
    · rintro ⟨ys, hys⟩
      obtain ⟨y, more, hy, hmore, -⟩ := List.forall₂_cons_left_iff.1 (mapM_eq_ok.1 hys)
      exact ⟨⟨y, hy⟩, more, mapM_eq_ok.2 hmore⟩
    · rintro ⟨⟨y, hy⟩, more, hmore⟩
      exact ⟨y :: more, mapM_eq_ok.2 (.cons hy (mapM_eq_ok.1 hmore))⟩

private theorem error_of_mapM {α β ε : Type} {f : α → Except ε β} {xs : List α} {e : ε}
    (h : xs.mapM f = .error e) : ∃ x ∈ xs, f x = .error e := by
  induction xs with
  | nil => cases h
  | cons x xs ih =>
    rw [List.mapM_cons] at h
    cases hx : f x with
    | error e' =>
      rw [hx] at h
      cases h
      exact ⟨x, List.mem_cons_self, hx⟩
    | ok y =>
      cases hxs : xs.mapM f with
      | error e' =>
        rw [hx, hxs] at h
        cases h
        obtain ⟨x', hmem, hx'⟩ := ih hxs
        exact ⟨x', List.mem_cons_of_mem x hmem, hx'⟩
      | ok ys =>
        rw [hx, hxs] at h
        cases h

/-- Where the aggregate is and nothing comes before the modules of descriptors, it loads as a toolset
of classes with their keys; a toolset that it loads as is one. -/
theorem load_aggregate_iff (hserves : importer.Serves g) (hmade : ∀ d ∈ descriptors, d.Made g)
    (hwritten : ∀ d ∈ descriptors, importer.files.Written d.path d.source)
    (haggregate : importer.files.Written g.aggregatePath
      (ToolsetModule.write ⟨aggregateName, Descriptor.imports descriptors⟩)) :
    ((∃ classes, importer.load g.aggregateModule = .ok (.toolset aggregateName classes)) ↔
      importer.lookUp g.base aggregateName ≠ some (.package (g.base.child aggregateName)) ∧
        ∀ d ∈ descriptors, importer.Clear g d) ∧
      ∀ classes, importer.load g.aggregateModule = .ok (.toolset aggregateName classes) →
        (classes.map ToolClass.key).Perm (descriptors.map Descriptor.key) := by
  have hperm := Descriptor.perm_byModule descriptors
  have himports := Descriptor.imports_eq_map_byModule descriptors
  generalize Descriptor.byModule descriptors = ordered at hperm himports
  have hmem {d : Descriptor} : d ∈ ordered ↔ d ∈ descriptors := hperm.mem_iff
  have hload (package : List String) (d : Descriptor) (hd : d ∈ descriptors) :=
    Importer.loadImport_ok hserves (hmade d hd) (hwritten d hd) package
  by_cases hpackage : importer.lookUp g.base aggregateName
      = some (.package (g.base.child aggregateName))
  · -- a directory of the aggregate's name is found before its module
    have hlocate : importer.locate g.aggregateModule
        = .ok (.package (g.base.child aggregateName)) := by
      rw [hserves.locate_aggregate, Importer.follow, hpackage]
      rfl
    have hloaded : importer.load g.aggregateModule = .ok .package := by
      rw [Importer.load, hlocate]
      rfl
    simp [hloaded, hpackage]
  · have hloaded := Importer.load_aggregate hserves hmade haggregate hpackage
    rw [himports] at hloaded
    -- a toolset comes of the module exactly if each of its imports gives a class
    have hlisted (classes : List ToolClass) :
        importer.load g.aggregateModule = .ok (.toolset aggregateName classes) ↔
          (ordered.map Descriptor.classImport).mapM
            (importer.loadImport (Importer.namesOf g.aggregateModule).dropLast) = .ok classes := by
      rw [hloaded]
      cases (ordered.map Descriptor.classImport).mapM
        (importer.loadImport (Importer.namesOf g.aggregateModule).dropLast) <;> simp [Except.map]
    constructor
    · simp only [hlisted]
      rw [exists_mapM_iff, List.forall_mem_map]
      refine ⟨fun hall => ⟨hpackage, fun d hd => ?_⟩, fun hclear d hd => ?_⟩
      · exact (hload _ d hd).1.1 (hall d (hmem.2 hd))
      · exact (hload _ d (hmem.1 hd)).1.2 (hclear.2 d (hmem.1 hd))
    · intro classes hclasses
      rw [map_key_of_mapM hserves (fun d hd => hmade d (hmem.1 hd))
        (fun d hd => hwritten d (hmem.1 hd)) ((hlisted classes).1 hclasses)]
      exact hperm.map _

/-- An aggregate that is there is not passed over for want of a module. -/
theorem missing_of_load_aggregate (hserves : importer.Serves g)
    (hmade : ∀ d ∈ descriptors, d.Made g)
    (haggregate : importer.files.Written g.aggregatePath
      (ToolsetModule.write ⟨aggregateName, Descriptor.imports descriptors⟩)) {missing : String}
    (h : importer.load g.aggregateModule = .error (.missing missing)) :
    Text.dropText? (missing ++ ".").toList (g.aggregateModule ++ ".").toList = none := by
  by_cases hpackage : importer.lookUp g.base aggregateName
      = some (.package (g.base.child aggregateName))
  · rw [Importer.load, hserves.locate_aggregate, Importer.follow, hpackage] at h
    cases h
  · have hloaded := Importer.load_aggregate hserves hmade haggregate hpackage
    rw [h, Descriptor.imports_eq_map_byModule] at hloaded
    have herror : ((Descriptor.byModule descriptors).map Descriptor.classImport).mapM
        (importer.loadImport (Importer.namesOf g.aggregateModule).dropLast)
          = .error (.missing missing) := by
      cases hall : ((Descriptor.byModule descriptors).map Descriptor.classImport).mapM
        (importer.loadImport (Importer.namesOf g.aggregateModule).dropLast) with
      | error fault =>
        rw [hall] at hloaded
        cases hloaded
        rfl
      | ok classes =>
        rw [hall] at hloaded
        cases hloaded
    obtain ⟨i, hi, hfails⟩ := error_of_mapM herror
    obtain ⟨d, hd, rfl⟩ := List.mem_map.1 hi
    have hd := hmade d ((Descriptor.perm_byModule descriptors).mem_iff.1 hd)
    have hmissing := Importer.missing_of_loadImport hserves hd hfails
    rw [hd.module] at hmissing
    have hfile := haggregate.read (by
      rw [show g.aggregatePath.parent = g.base from Path.parent_child _ _]
      exact hserves.isDirectory)
    -- what is missing is on the way to a class, and the aggregate is not
    refine hserves.missing_not_on_the_way hd.named.isIdentifier hmissing ?_
    rw [Importer.lookUp_of_isFile (FileTree.isFile_eq_true.2 ⟨_, hfile⟩) hpackage]
    simp

/-- Another fault in place of one that arose is still a fault. -/
private theorem mapError_eq_ok {α ε ε' : Type} {f : ε → ε'} {result : Except ε α} {a : α} :
    result.mapError f = .ok a ↔ result = .ok a := by
  cases result with
  | ok b =>
    show Except.ok b = Except.ok a ↔ Except.ok b = Except.ok a
    rw [Except.ok.injEq, Except.ok.injEq]
  | error e =>
    show Except.error (f e) = Except.ok a ↔ Except.error e = Except.ok a
    simp

/-- The table that is loaded is the one of the classes that the aggregate lists. -/
theorem BindingTable.load_eq_ok (hserves : importer.Serves g)
    (hmade : ∀ d ∈ descriptors, d.Made g)
    (haggregate : importer.files.Written g.aggregatePath
      (ToolsetModule.write ⟨aggregateName, Descriptor.imports descriptors⟩)) {table : BindingTable} :
    BindingTable.load importer (trimDots g.namespaceName) = .ok table ↔
      ∃ classes, importer.load g.aggregateModule = .ok (.toolset aggregateName classes) ∧
        ofClasses classes = .ok table := by
  have hdotted : trimDots g.namespaceName ++ "." ++ aggregateName = g.aggregateModule := rfl
  rw [BindingTable.load, hdotted, Importer.load?]
  cases hload : importer.load g.aggregateModule with
  | error fault =>
    cases fault with
    | missing missing =>
      dsimp only
      rw [missing_of_load_aggregate hserves hmade haggregate hload]
      simp
    | relative => simp
    | undefined => simp
    | badSource => simp
  | ok m =>
    cases m with
    | package => simp [classesOf]
    | tool c => simp [classesOf]
    | toolset name classes =>
      by_cases hname : name = aggregateName
      · simp [classesOf, hname, mapError_eq_ok]
      · simp [classesOf, hname]

/-- The aggregate loads as a table exactly if nothing comes before the modules under their names and
every descriptor names a server and a tool. A table that it loads as has one class for each
descriptor. -/
theorem BindingTable.load_iff (hserves : importer.Serves g) (hmade : ∀ d ∈ descriptors, d.Made g)
    (hnodup : (descriptors.map Descriptor.key).Nodup)
    (hwritten : ∀ d ∈ descriptors, importer.files.Written d.path d.source)
    (haggregate : importer.files.Written g.aggregatePath
      (ToolsetModule.write ⟨aggregateName, Descriptor.imports descriptors⟩)) :
    ((∃ table, BindingTable.load importer (trimDots g.namespaceName) = .ok table) ↔
      importer.lookUp g.base aggregateName ≠ some (.package (g.base.child aggregateName)) ∧
        ∀ d ∈ descriptors, importer.Clear g d ∧ d.server ≠ "" ∧ d.tool ≠ "") ∧
      ∀ table, BindingTable.load importer (trimDots g.namespaceName) = .ok table →
        (table.classes.map ToolClass.key).Perm (descriptors.map Descriptor.key) := by
  obtain ⟨hloads, hkeys⟩ := load_aggregate_iff hserves hmade hwritten haggregate
  -- a class is a binding exactly if its key has a server and a tool, and the keys are the same
  have hbinding {classes : List ToolClass}
      (hclasses : (classes.map ToolClass.key).Perm (descriptors.map Descriptor.key)) :
      (∀ c ∈ classes, c.IsBinding) ↔ ∀ d ∈ descriptors, d.server ≠ "" ∧ d.tool ≠ "" := by
    have hboth : (∀ key ∈ classes.map ToolClass.key, key.server ≠ "" ∧ key.tool ≠ "") ↔
        ∀ key ∈ descriptors.map Descriptor.key, key.server ≠ "" ∧ key.tool ≠ "" :=
      forall_congr' fun key => by rw [hclasses.mem_iff]
    rwa [List.forall_mem_map, List.forall_mem_map] at hboth
  simp only [BindingTable.load_eq_ok hserves hmade haggregate]
  refine ⟨⟨?_, ?_⟩, ?_⟩
  · rintro ⟨table, classes, hloaded, hlisted⟩
    have hperm := hkeys classes hloaded
    have hok := (BindingTable.ofClasses_eq_ok (hperm.nodup_iff.2 hnodup)).1 hlisted
    obtain ⟨hfirst, hclear⟩ := hloads.1 ⟨classes, hloaded⟩
    exact ⟨hfirst, fun d hd => ⟨hclear d hd, (hbinding hperm).1 hok.1 d hd⟩⟩
  · rintro ⟨hfirst, hall⟩
    obtain ⟨classes, hloaded⟩ := hloads.2 ⟨hfirst, fun d hd => (hall d hd).1⟩
    have hperm := hkeys classes hloaded
    have hnodupClasses := hperm.nodup_iff.2 hnodup
    exact ⟨⟨classes, hnodupClasses⟩, classes, hloaded,
      (BindingTable.ofClasses_eq_ok hnodupClasses).2
        ⟨(hbinding hperm).2 fun d hd => (hall d hd).2, rfl⟩⟩
  · rintro table ⟨classes, hloaded, hlisted⟩
    have hperm := hkeys classes hloaded
    have hok := (BindingTable.ofClasses_eq_ok (hperm.nodup_iff.2 hnodup)).1 hlisted
    rwa [hok.2]

/-! ## A generation -/

namespace CommandRun

variable {run : CommandRun} {wanted : List String} {options : GenerateOptions} {w w' : Workspace}

/-- After a generation that succeeds with some tools, the aggregate loads exactly if nothing comes
before the modules under their names and every descriptor names a server and a tool. What it loads as
has exactly one class for each descriptor, under its server, tool and class name. -/
theorem load_generated_iff (h : run.generate wanted options w = (.ok .success, w'))
    (hdry : options.dryRun = false) (hsome : run.descriptors wanted options w ≠ [])
    (hfiles : importer.files = w'.files)
    (hserves : importer.Serves run.project.settings.generated) :
    ((∃ table, BindingTable.load importer (trimDots run.project.settings.generated.namespaceName)
        = .ok table) ↔
      importer.lookUp run.project.settings.generated.base aggregateName
          ≠ some (.package (run.project.settings.generated.base.child aggregateName)) ∧
        ∀ d ∈ run.descriptors wanted options w,
          importer.Clear run.project.settings.generated d ∧ d.server ≠ "" ∧ d.tool ≠ "") ∧
      ∀ table, BindingTable.load importer (trimDots run.project.settings.generated.namespaceName)
          = .ok table →
        (table.classes.map ToolClass.key).Perm
          ((run.descriptors wanted options w).map Descriptor.key) := by
  obtain ⟨hwritten, haggregate⟩ := written_of_generate h hdry hsome
  rw [← hfiles] at hwritten haggregate
  exact BindingTable.load_iff hserves (fun d => made_of_mem_descriptors)
    (nodup_keys run wanted options w) hwritten haggregate

/-- A run for one server, whose manifest is `crm.json`. -/
def crm : CommandRun :=
  ⟨⟨Registry.oneServer "crm" "crm.json", []⟩, "2026-01-01T00:00:00Z", "tag"⟩

/-- A manifest that lists one tool of this name. -/
def listing (tool : String) : String :=
  "\x7b\"tools\":[\x7b\"name\":\"" ++ tool ++ "\"\x7d]\x7d"

/-- A workspace with this manifest as its only file; it lists one tool. -/
def crmWorkspace : Workspace :=
  ⟨⟨[(["crm.json"], .file (Text.Utf8.encode (listing "search")))], []⟩, .ofScript none, []⟩

/-- Modules are written, and nothing is removed before. -/
def plain : GenerateOptions := ⟨false, false, false⟩

/-- The modules of a tree, found from the working directory on. -/
def importerFrom (files : FileTree) : Importer := ⟨files, .ofString ".", .ofLetters fun _ => false⟩

theorem files_importerFrom (files : FileTree) : (importerFrom files).files = files := rfl

/-- The modules that the run leaves. -/
def crmImporter : Importer := importerFrom (crm.generate [] plain crmWorkspace).2.files

/-- What the run comes to, evaluated once. -/
private theorem crm_run :
    (crm.generate [] plain crmWorkspace).1 = .ok .success ∧
      (crm.descriptors [] plain crmWorkspace).map Descriptor.key
        = [⟨"crm", "search", "CrmSearchTool"⟩] ∧
      crmImporter.locate "generated_tools" = .ok (.package (.ofString "generated_tools")) := by
  decide +kernel

private theorem eq_of_fst {α β : Type} {p : α × β} {a : α} (h : p.1 = a) : p = (a, p.2) := h ▸ rfl

theorem generate_crm : crm.generate [] plain crmWorkspace
    = (.ok .success, (crm.generate [] plain crmWorkspace).2) :=
  eq_of_fst crm_run.1

theorem descriptors_crm : (crm.descriptors [] plain crmWorkspace).map Descriptor.key
    = [⟨"crm", "search", "CrmSearchTool"⟩] :=
  crm_run.2.1

theorem descriptors_crm_ne_nil : crm.descriptors [] plain crmWorkspace ≠ [] := by
  intro hnone
  have hkeys := descriptors_crm
  rw [hnone] at hkeys
  cases hkeys

theorem trimDots_crm : trimDots crm.project.settings.generated.namespaceName = "generated_tools" := by
  decide

theorem serves_crm : crmImporter.Serves crm.project.settings.generated where
  names := by
    rw [trimDots_crm]
    decide +kernel
  base := by
    rw [trimDots_crm]
    exact crm_run.2.2

/-! ## Two servers with one package -/

/-- A run for two servers whose packages have one name. -/
def shared : CommandRun :=
  let settings : Settings :=
    { servers := [("a b", .map [(.text "manifest", .text "a.json")]),
        ("a-b", .map [(.text "manifest", .text "b.json")])]
      nodup := by simp
      retry := []
      generated := .default }
  { crm with project := ⟨settings, []⟩ }

/-- The first server, which lists two tools. -/
def firstServer : Server := { manifestServer with slug := "a b", manifest := some "a.json" }

/-- The second server, which lists one tool of the name that one of the first has. -/
def secondServer : Server := { manifestServer with slug := "a-b", manifest := some "b.json" }

def firstTools : List (Entries String Json) := [[("name", .text "y")], [("name", .text "x")]]

def secondTools : List (Entries String Json) := [[("name", .text "x")]]

/-- The manifest that is written for these tools of a server. -/
def manifestOf (slug : String) (tools : List (Entries String Json)) : List UInt8 :=
  Text.Utf8.encode (Manifest.ofTools slug none tools "2026-01-01T00:00:00Z").write

/-- A workspace with nothing but the manifests. -/
def sharedWorkspace : Workspace :=
  ⟨⟨[(["a.json"], .file (manifestOf "a b" firstTools)),
      (["b.json"], .file (manifestOf "a-b" secondTools))], []⟩, .ofScript none, []⟩

/-- What the manifests define, in order. -/
def sharedDefinitions : List Definition :=
  [⟨"a b", ⟨"x", "x", []⟩⟩, ⟨"a b", ⟨"y", "y", []⟩⟩, ⟨"a-b", ⟨"x", "x", []⟩⟩]

theorem selectServers_shared :
    shared.project.settings.selectServers [] = .ok [firstServer, secondServer] := by
  have hsorted : Text.sortedBy (·.1) shared.project.settings.servers
      = shared.project.settings.servers :=
    sortBy_of_pairwise (by decide)
  rw [Settings.selectServers, Settings.allServers, hsorted]
  rfl

theorem read_first (a b : List UInt8) :
    FileTree.read ⟨[(["a.json"], .file a), (["b.json"], .file b)], []⟩ (.ofString "a.json") = .ok a :=
  rfl

theorem read_second (a b : List UInt8) :
    FileTree.read ⟨[(["a.json"], .file a), (["b.json"], .file b)], []⟩ (.ofString "b.json") = .ok b :=
  rfl

/-- Read back from the texts, the manifests define the tools. -/
theorem loadServers_shared : loadServers [firstServer, secondServer] sharedWorkspace
    = (.ok ⟨sharedDefinitions, false⟩, sharedWorkspace) := by
  have hfirstKeys : ∀ tool ∈ firstTools, (Data.map tool).distinctKeys = true := by decide
  have hsecondKeys : ∀ tool ∈ secondTools, (Data.map tool).distinctKeys = true := by decide
  have hfirst := loadServer_ofTools (w := sharedWorkspace) firstServer none "2026-01-01T00:00:00Z"
    hfirstKeys rfl (read_first _ _)
  have hsecond := loadServer_ofTools (w := sharedWorkspace) secondServer none "2026-01-01T00:00:00Z"
    hsecondKeys rfl (read_second _ _)
  have hnone : loadServers [] sharedWorkspace = (.ok ⟨[], false⟩, sharedWorkspace) := by
    rw [loadServers]
  have hload := loadServers_cons hfirst (loadServers_cons hsecond hnone)
  have hdefinitions : (Text.sortedBy ReplyTool.name firstTools).map
        (ReplyTool.definition firstServer.slug) ++
      ((Text.sortedBy ReplyTool.name secondTools).map (ReplyTool.definition secondServer.slug) ++ [])
      = sharedDefinitions := rfl
  dsimp only at hload
  rwa [hdefinitions] at hload

/-- The modules that the run leaves. -/
def sharedImporter : Importer :=
  importerFrom (shared.generate [] plain sharedWorkspace).2.files

/-- The same run, carried out for what the manifests define. -/
private def sharedRun : Except Crash ExitStatus × Workspace :=
  let plan := Plan.ofDefinitions shared.project.settings.generated (!plain.failOnCollision)
    sharedDefinitions
  reportingObstacles (fun _ => shared.carryOut plain.dryRun false plan sharedWorkspace) sharedWorkspace

private theorem generate_eq_sharedRun :
    shared.generate [] plain sharedWorkspace = sharedRun := by
  rw [sharedRun,
    generate_of_loadServers selectServers_shared (List.cons_ne_nil _ _) rfl loadServers_shared]

/-- The classes that the run generates; the second of a name has a suffix. -/
def sharedKeys : List BindingKey :=
  [⟨"a b", "x", "ABXTool"⟩, ⟨"a b", "y", "ABYTool"⟩, ⟨"a-b", "x", "ABXToolbb03279f"⟩]

/-- What the run comes to, evaluated once. -/
private theorem shared_run :
    sharedRun.1 = .ok .success ∧
      (Plan.describe .default true .empty (Plan.ordered sharedDefinitions)).1.map Descriptor.key
        = sharedKeys ∧
      let importer := importerFrom sharedRun.2.files
      importer.locate "generated_tools" = .ok (.package (.ofString "generated_tools")) ∧
      importer.lookUp (.ofString "generated_tools") aggregateName
        = some (.file GeneratedSettings.default.aggregatePath) ∧
      ∀ key ∈ sharedKeys,
        importer.lookUp (.ofString "generated_tools") (Name.package key.server)
            = some (.package (GeneratedSettings.default.packagePath key.server)) ∧
          importer.lookUp (GeneratedSettings.default.packagePath key.server) key.className
            = some (.file (GeneratedSettings.default.classPath key.server key.className)) ∧
          key.server ≠ "" ∧ key.tool ≠ "" := by
  decide +kernel

theorem generate_shared : shared.generate [] plain sharedWorkspace
    = (.ok .success, (shared.generate [] plain sharedWorkspace).2) := by
  have hends := shared_run.1
  rw [← generate_eq_sharedRun] at hends
  exact eq_of_fst hends

theorem files_sharedImporter :
    sharedImporter.files = (shared.generate [] plain sharedWorkspace).2.files :=
  files_importerFrom _

theorem plan_shared : shared.plan plain [firstServer, secondServer] sharedWorkspace
    = Plan.ofDefinitions .default true sharedDefinitions := by
  have hdefinitions := (loadServers_ok loadServers_shared).1
  rw [plan, cleaned_of_keeping shared rfl, ← hdefinitions]
  rfl

theorem descriptors_shared :
    (shared.descriptors [] plain sharedWorkspace).map Descriptor.key = sharedKeys := by
  have hdefinitions := (loadServers_ok loadServers_shared).1
  rw [descriptors_eq selectServers_shared, cleaned_of_keeping shared rfl, ← hdefinitions]
  exact shared_run.2.1

theorem descriptors_shared_ne_nil : shared.descriptors [] plain sharedWorkspace ≠ [] := by
  intro hnone
  have hkeys := descriptors_shared
  rw [hnone] at hkeys
  cases hkeys

theorem trimDots_shared :
    trimDots shared.project.settings.generated.namespaceName = "generated_tools" :=
  trimDots_crm

theorem serves_shared : sharedImporter.Serves shared.project.settings.generated where
  names := by
    rw [trimDots_shared]
    decide +kernel
  base := by
    rw [trimDots_shared]
    obtain ⟨-, -, hlocate, -⟩ := shared_run
    rw [← generate_eq_sharedRun] at hlocate
    exact hlocate

/-- Nothing stands before what the run has written. -/
theorem clear_shared :
    sharedImporter.lookUp shared.project.settings.generated.base aggregateName
        ≠ some (.package (shared.project.settings.generated.base.child aggregateName)) ∧
      ∀ d ∈ shared.descriptors [] plain sharedWorkspace,
        sharedImporter.Clear shared.project.settings.generated d ∧ d.server ≠ "" ∧ d.tool ≠ "" := by
  obtain ⟨-, -, -, haggregate, hall⟩ := shared_run
  rw [← generate_eq_sharedRun] at haggregate hall
  constructor
  · exact haggregate ▸ nofun
  · intro d hd
    have hkey : d.key ∈ sharedKeys := descriptors_shared ▸ List.mem_map_of_mem hd
    obtain ⟨hpackage, hmodule, hserver, htool⟩ := hall d.key hkey
    exact ⟨⟨hpackage, hmodule ▸ nofun⟩, hserver, htool⟩

theorem load_generated_shared :
    ∃ table, BindingTable.load sharedImporter "generated_tools" = .ok table ∧
      (table.classes.map ToolClass.key).Perm
        [⟨"a b", "x", "ABXTool"⟩, ⟨"a b", "y", "ABYTool"⟩, ⟨"a-b", "x", "ABXToolbb03279f"⟩] := by
  obtain ⟨hiff, hkeys⟩ := load_generated_iff generate_shared rfl descriptors_shared_ne_nil
    files_sharedImporter serves_shared
  rw [trimDots_shared] at hiff hkeys
  obtain ⟨table, htable⟩ := hiff.2 clear_shared
  have hperm := hkeys table htable
  rw [descriptors_shared] at hperm
  exact ⟨table, htable, hperm⟩

end CommandRun

end

end ToolBindings
