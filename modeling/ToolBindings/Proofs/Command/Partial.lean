import ToolBindings.Proofs.Command.Changes
import ToolBindings.Proofs.Command.LoadBack

/-!
# Generations for some servers

A generation changes nothing but what is below its clean targets and what stands where it writes
(`keeps_generate`), so the module of a tool stays what it was through a later generation that spares
it (`read_of_spared`). One that cleans spares a module if no server that is wanted shares its package,
and no generation spares a module that it writes.
-/

namespace ToolBindings.CommandRun

variable {run : CommandRun} {options : GenerateOptions} {servers : List Server} {w w' : Workspace}

/-! ## What a generation may change -/

/-- The places that a generation for servers may change something at. -/
def Touches (run : CommandRun) (options : GenerateOptions) (servers : List Server) (w : Workspace)
    (l : Location) : Prop :=
  options.dryRun = false ∧
    ((options.clean = true ∧ ∃ target ∈ cleanTargets run.project.settings.generated servers,
        w.files.placeOf target <+: l) ∨
      ∃ f ∈ (run.plan options servers w).files, l = w.files.placeOf f.path)

/-- What a generation may change is what its writing and removing reaches. -/
theorem touches_of_reaches {l : Location}
    (h : FileTree.Changes.Reaches (run.Writes options servers w) (run.Removes options servers)
      w.files l) : run.Touches options servers w l := by
  rcases h with ⟨p, ⟨hdry, f, hf, rfl⟩, hplace⟩ | ⟨p, ⟨hdry, hclean, htarget⟩, hbelow⟩
  · exact ⟨hdry, Or.inr ⟨f, hf, hplace⟩⟩
  · exact ⟨hdry, Or.inl ⟨hclean, p, htarget, hbelow⟩⟩

/-- A generation, however it ends, changes only what it touches. -/
theorem keeps_generate (h : w.files.Plain) {wanted : List String}
    (hselect : run.project.settings.selectServers wanted = .ok servers) (options : GenerateOptions) :
    FileTree.Keeps (run.Touches options servers w) w.files
      (run.generate wanted options w).2.files :=
  ((changes_generate hselect options w).confined h).keeps.mono fun _ => touches_of_reaches

/-! ## What a generation has written -/

theorem grows_writePlanned {file : PlannedFile}
    (h : run.writePlanned false file w = (.ok (), w')) : FileTree.Grows w.files w'.files := by
  rcases writePlanned_ok h with hsame | hwritten
  · rw [hsame]
    exact .refl _
  · exact FileTree.grows_writeAtomic hwritten

theorem grows_writeAll {files : List PlannedFile}
    (h : run.writeAll false files w = (.ok (), w')) : FileTree.Grows w.files w'.files := by
  induction files generalizing w with
  | nil =>
    cases h
    exact .refl _
  | cons file rest ih =>
    obtain ⟨between, hfirst, hrest⟩ := writeAll_cons h
    exact (grows_writePlanned hfirst).trans (ih hrest)

/-- A module that was written is in a directory. -/
theorem isDirectory_of_writeAll (hplain : w.files.Plain) {files : List PlannedFile}
    (h : run.writeAll false files w = (.ok (), w')) {path : Path} {name source : String}
    (hmem : .module path name source ∈ files) : w'.files.isDirectory path.parent = .ok true := by
  obtain ⟨before, after, rfl⟩ := List.append_of_mem hmem
  obtain ⟨u, hbefore, hrest⟩ := writeAll_append h
  obtain ⟨v, hmodule, hafter⟩ := writeAll_cons hrest
  have hu := hplain.grows (grows_writeAll hbefore)
  have hv := hu.grows (grows_writePlanned hmodule)
  exact hv.isDirectory_grows (grows_writeAll hafter)
    (hu.isDirectory_of_writeAtomic (writeAtomic_of_module hmodule))

/-- A generation that succeeds leaves each module of a tool in its directory, as it was written. -/
theorem read_of_generate (hplain : w.files.Plain) {wanted : List String}
    (h : run.generate wanted options w = (.ok .success, w')) (hdry : options.dryRun = false)
    {d : Descriptor} (hd : d ∈ run.descriptors wanted options w) :
    w'.files.isDirectory d.path.parent = .ok true ∧
      w'.files.read d.path = .ok (Text.Utf8.encode d.source) := by
  have hwritten := (written_of_generate h hdry (List.ne_nil_of_mem hd)).1 d hd
  suffices hdirectory : w'.files.isDirectory d.path.parent = .ok true from
    ⟨hdirectory, hwritten.read hdirectory⟩
  obtain ⟨servers, hselect, hsome⟩ := exists_servers_of_descriptors (List.ne_nil_of_mem hd)
  have hdescriptors : run.descriptors wanted options w = _ := descriptors_eq hselect
  obtain ⟨hcollision, read, written, hread, hwrite, hfiles⟩ := generate_success h hselect hsome
  rw [hdry, plan, Plan.files_ofDefinitions hdescriptors.symm (List.ne_nil_of_mem hd) hcollision]
    at hwrite
  have hplain' : read.files.Plain := by
    rw [hread]
    have hcleaned : FileTree.Changes run.tag (run.Writes options servers w)
        (run.Removes options servers) w.files (run.cleaned options servers w).files :=
      changes_cleaned run options servers w
    exact (hcleaned.confined hplain).plain
  rw [hfiles]
  exact isDirectory_of_writeAll hplain' hwrite (List.mem_append_left _ (List.mem_map_of_mem hd))

/-! ## Spared modules -/

/-- A generation for wanted servers spares the module of a descriptor: it does not clean the package
that the module is in, and writes no module in its place. -/
structure Spares (run : CommandRun) (wanted : List String) (options : GenerateOptions)
    (servers : List Server) (w : Workspace) (d : Descriptor) : Prop where
  package : options.clean = true →
    ∀ server ∈ servers, Name.package server.slug ≠ Name.package d.server
  path : ∀ other ∈ run.descriptors wanted options w, other.path ≠ d.path

/-- The file of a module has no name that a package can have. -/
theorem moduleFile_ne_package (name server : String) : moduleFile name ≠ Name.package server := by
  intro hfile
  have hdot : '.' ∈ (Name.package server).toList := by
    rw [← hfile, moduleFile, String.toList_append]
    exact List.mem_append_right _ (by decide)
  exact Importer.not_dot_of_isIdentifier (Name.isIdentifier_package server) hdot rfl

theorem moduleFile_ne_up (name : String) : moduleFile name ≠ ".." := by
  intro hfile
  have hlast := congrArg (fun text => text.toList.getLast?) hfile
  simp only [moduleFile, String.toList_append] at hlast
  rw [List.getLast?_append_of_ne_nil _ (by decide)] at hlast
  revert hlast
  decide

theorem package_ne_up (server : String) : Name.package server ≠ ".." := by
  intro hpackage
  exact Importer.not_dot_of_isIdentifier (Name.isIdentifier_package server)
    (hpackage ▸ List.mem_cons_self) rfl

section

variable {t : FileTree} {g : GeneratedSettings} {d : Descriptor}

theorem placeOf_packagePath (t : FileTree) (g : GeneratedSettings) (server : String) :
    t.placeOf (g.packagePath server) = t.placeOf g.base ++ [Name.package server] :=
  t.placeOf_child g.base (package_ne_up server)

theorem placeOf_made (t : FileTree) (h : d.Made g) :
    t.placeOf d.path
      = t.placeOf g.base ++ [Name.package d.server] ++ [moduleFile d.className] := by
  rw [h.path, GeneratedSettings.classPath, t.placeOf_child _ (moduleFile_ne_up _),
    placeOf_packagePath]

/-- What is cleaned is a package, or the aggregate. -/
theorem placeOf_of_mem_cleanTargets {target : Path} (h : target ∈ cleanTargets g servers) :
    ∃ name, t.placeOf target = t.placeOf g.base ++ [name] ∧
      ((∃ server ∈ servers, name = Name.package server.slug) ∨ name = moduleFile aggregateName) := by
  rcases List.mem_append.1 h with h | h
  · obtain ⟨server, hserver, rfl⟩ := List.mem_map.1 h
    exact ⟨_, placeOf_packagePath t g server.slug, Or.inl ⟨server, hserver, rfl⟩⟩
  · rw [List.mem_singleton.1 h]
    exact ⟨_, t.placeOf_child g.base (moduleFile_ne_up aggregateName), Or.inr rfl⟩

/-- What stands below a package that is not cleaned is not below a clean target. -/
theorem not_cleaned_of_package {server : String} (below : Location)
    (h : ∀ other ∈ servers, Name.package other.slug ≠ Name.package server) {target : Path}
    (htarget : target ∈ cleanTargets g servers) :
    ¬t.placeOf target <+: t.placeOf g.base ++ Name.package server :: below := by
  obtain ⟨name, hplace, hname⟩ := placeOf_of_mem_cleanTargets (t := t) htarget
  rw [hplace, List.prefix_append_right_inj, List.cons_prefix_cons]
  rintro ⟨rfl, -⟩
  rcases hname with ⟨other, hother, hname⟩ | hname
  · exact h other hother hname.symm
  · exact moduleFile_ne_package aggregateName server hname.symm

theorem last_eq {α : Type} {xs ys : List α} {a b : α} (h : xs ++ [a] = ys ++ [b]) : a = b :=
  List.singleton_inj.1 (List.append_inj_right' h rfl)

/-- A file of a plan does not stand where a package is, and where the module of a descriptor is only
if a descriptor of the plan has the same path. -/
theorem placeOf_planned {wanted : List String}
    (hselect : run.project.settings.selectServers wanted = .ok servers) {f : PlannedFile}
    (hf : f ∈ (run.plan options servers w).files) (hmade : d.Made run.project.settings.generated) :
    (∀ server, t.placeOf f.path ≠ t.placeOf (run.project.settings.generated.packagePath server)) ∧
      (t.placeOf f.path = t.placeOf d.path →
        ∃ other ∈ run.descriptors wanted options w, other.path = d.path) := by
  have hpackage (directory : Path) (name : String)
      (hpath : f.path = directory.child (moduleFile name)) (server : String) :
      t.placeOf f.path ≠ t.placeOf (run.project.settings.generated.packagePath server) := by
    rw [hpath, t.placeOf_child _ (moduleFile_ne_up name), placeOf_packagePath]
    exact fun hplace => moduleFile_ne_package name server (last_eq hplace)
  rw [plan] at hf
  rcases Plan.mem_files_ofDefinitions hf with ⟨other, hother, rfl⟩ | hother
  · rw [← descriptors_eq hselect] at hother
    have hmade' := made_of_mem_descriptors hother
    refine ⟨hpackage _ other.className hmade'.path, fun hplace => ⟨other, hother, ?_⟩⟩
    have hplace : t.placeOf other.path = t.placeOf d.path := hplace
    rw [placeOf_made t hmade', placeOf_made t hmade, List.append_assoc, List.append_assoc,
      List.append_cancel_left_eq, List.singleton_append, List.singleton_append] at hplace
    obtain ⟨hserver, hfile⟩ := List.cons.inj hplace
    rw [hmade'.path, hmade.path, GeneratedSettings.classPath, GeneratedSettings.classPath,
      GeneratedSettings.packagePath, GeneratedSettings.packagePath, hserver,
      (List.cons.inj hfile).1]
  · obtain ⟨directory, name, hpath, hname⟩ := hother
    refine ⟨hpackage directory name hpath, fun hplace => ?_⟩
    rw [hpath, t.placeOf_child _ (moduleFile_ne_up name), placeOf_made t hmade] at hplace
    rw [moduleFile_inj (last_eq hplace)] at hname
    exact absurd hmade.named hname

/-- A generation touches neither a module that it spares nor the package that it is in. -/
theorem not_touches_of_spares {wanted : List String}
    (hselect : run.project.settings.selectServers wanted = .ok servers)
    (hmade : d.Made run.project.settings.generated)
    (h : options.dryRun = false → run.Spares wanted options servers w d) :
    ¬run.Touches options servers w
        (w.files.placeOf (run.project.settings.generated.packagePath d.server)) ∧
      ¬run.Touches options servers w (w.files.placeOf d.path) := by
  constructor
  · rintro ⟨hdry, ⟨hclean, target, htarget, hbelow⟩ | ⟨f, hf, hplace⟩⟩
    · rw [placeOf_packagePath] at hbelow
      exact not_cleaned_of_package [] ((h hdry).package hclean) htarget hbelow
    · exact (placeOf_planned hselect hf hmade).1 d.server hplace.symm
  · rintro ⟨hdry, ⟨hclean, target, htarget, hbelow⟩ | ⟨f, hf, hplace⟩⟩
    · rw [placeOf_made _ hmade, List.append_assoc] at hbelow
      exact not_cleaned_of_package _ ((h hdry).package hclean) htarget hbelow
    · obtain ⟨other, hother, hpath⟩ := (placeOf_planned hselect hf hmade).2 hplace.symm
      exact (h hdry).path other hother hpath

end

/-! ## Later generations -/

/-- The module of a tool that a generation for all servers has written is read as it was written
after a later generation that spares it, with whatever servers and however that ends. -/
theorem read_of_spared (hplain : w.files.Plain) {wanted : List String}
    {options' : GenerateOptions} {d : Descriptor}
    (h : run.generate [] options w = (.ok .success, w')) (hdry : options.dryRun = false)
    (hd : d ∈ run.descriptors [] options w)
    (hselect : run.project.settings.selectServers wanted = .ok servers)
    (hspared : options'.dryRun = false → run.Spares wanted options' servers w' d)
    (hbase : (run.generate wanted options' w').2.files.isDirectory
      run.project.settings.generated.base = .ok true) :
    (run.generate wanted options' w').2.files.read d.path = .ok (Text.Utf8.encode d.source) := by
  have hmade := made_of_mem_descriptors hd
  have hplain' : w'.files.Plain := by
    cases hall : run.project.settings.selectServers [] with
    | error fault =>
      rw [descriptors, hall] at hd
      cases hd
    | ok all =>
      have hkept := (keeps_generate hplain hall options).plain
      rwa [h] at hkept
  -- the first generation has written the module; the second touches neither it nor its package
  obtain ⟨hdirectory, hread⟩ := read_of_generate hplain h hdry hd
  have hkeeps := keeps_generate hplain' hselect options'
  obtain ⟨hpackage, hmodule⟩ := not_touches_of_spares hselect hmade hspared
  rw [hmade.path] at hread hmodule hdirectory ⊢
  rw [GeneratedSettings.classPath, Path.parent_child] at hdirectory
  have hpackageName : Name.package d.server ≠ "" := by
    intro hempty
    obtain ⟨c, rest, hname, -⟩ := (Name.isIdentifier_package d.server).startsWithLetter
    rw [hempty] at hname
    cases hname
  have hfileName : moduleFile d.className ≠ "" := by
    intro hempty
    have hlength := congrArg String.length hempty
    rw [moduleFile, String.length_append] at hlength
    revert hlength
    simp
  have hkept : (run.generate wanted options' w').2.files.isDirectory
      (run.project.settings.generated.packagePath d.server) = .ok true :=
    hkeeps.isDirectory_child hplain' hpackageName (package_ne_up d.server) hbase hpackage hdirectory
  exact hkeeps.read_child hplain' hfileName (moduleFile_ne_up d.className) hkept hmodule hread

/-- After a generation for all servers and a later one that spares the module of a tool, with
whatever servers and however that ends, the module is still what was written, and the class of the
tool is found through every table, if nothing comes before its module. -/
theorem kept_of_spared (hplain : w.files.Plain) {wanted : List String}
    {options' : GenerateOptions} {d : Descriptor}
    (h : run.generate [] options w = (.ok .success, w')) (hdry : options.dryRun = false)
    (hd : d ∈ run.descriptors [] options w)
    (hselect : run.project.settings.selectServers wanted = .ok servers)
    (hspared : options'.dryRun = false → run.Spares wanted options' servers w' d)
    {importer : Importer} (hfiles : importer.files = (run.generate wanted options' w').2.files)
    (hserves : importer.Serves run.project.settings.generated) :
    importer.files.read d.path = .ok (Text.Utf8.encode d.source) ∧
      (importer.Clear run.project.settings.generated d → d.server ≠ "" → d.tool ≠ "" →
        ∀ table : BindingTable, ∃ c table',
          table.find? importer d.key d.module = .ok (some c, table') ∧ c.key = d.key) := by
  have hread := read_of_spared hplain h hdry hd hselect hspared (hfiles ▸ hserves.isDirectory)
  rw [← hfiles] at hread
  exact ⟨hread, Importer.find?_of_clear hserves (made_of_mem_descriptors hd) hread⟩

/-- A server without a manifest. -/
def n8nServer : Server := { manifestServer with slug := "n8n", manifest := none }

/-- A run for a server whose manifest is `crm.json`, and for the one without a manifest. -/
def crmAndN8n : CommandRun :=
  let settings : Settings :=
    { servers := [("crm", .map [(.text "manifest", .text "crm.json")]), ("n8n", .map [])]
      nodup := by simp
      retry := []
      generated := .default }
  ⟨⟨settings, []⟩, "2026-01-01T00:00:00Z", "tag"⟩

/-- Modules are written after what they replace is removed. -/
def replacing : GenerateOptions := ⟨false, true, false⟩

private theorem allServers_crmAndN8n :
    crmAndN8n.project.settings.allServers = .ok [manifestServer, n8nServer] := by
  have hsorted : Text.sortedBy (·.1) crmAndN8n.project.settings.servers
      = crmAndN8n.project.settings.servers :=
    sortBy_of_pairwise (by decide)
  rw [Settings.allServers, hsorted]
  rfl

private theorem selectServers_all :
    crmAndN8n.project.settings.selectServers [] = .ok [manifestServer, n8nServer] := by
  rw [Settings.selectServers, allServers_crmAndN8n]
  rfl

private theorem selectServers_n8n :
    crmAndN8n.project.settings.selectServers ["n8n"] = .ok [n8nServer] := by
  rw [Settings.selectServers, allServers_crmAndN8n]
  rfl

/-- The workspace that the run leaves. -/
def bothWorkspace : Workspace := (crmAndN8n.generate [] plain crmWorkspace).2

/-- The modules that a later run for the second server leaves, and the working directory. -/
def laterImporter : Importer :=
  ⟨(crmAndN8n.generate ["n8n"] replacing bothWorkspace).2.files, .ofString ".",
    .ofLetters fun _ => false⟩

/-- The same runs, carried out for the servers that are selected. -/
private def bothRuns : Except Crash ExitStatus × Importer :=
  let first := reportingObstacles (crmAndN8n.generateFor plain [manifestServer, n8nServer])
    crmWorkspace
  let later := reportingObstacles (crmAndN8n.generateFor replacing [n8nServer]) first.2
  (first.1, ⟨later.2.files, .ofString ".", .ofLetters fun _ => false⟩)

private theorem bothRuns_eq :
    bothRuns = ((crmAndN8n.generate [] plain crmWorkspace).1, laterImporter) := by
  rw [bothRuns, laterImporter, bothWorkspace, generate_eq selectServers_all (by simp),
    generate_eq selectServers_n8n (by simp)]

/-- What the runs come to, evaluated once. -/
private theorem bothRuns_run :
    bothRuns.1 = .ok .success ∧
      (Plan.describe .default true .empty (Plan.ordered
          ([manifestServer, n8nServer].flatMap (·.definitions crmWorkspace.files)))).1.map
        Descriptor.key = [⟨"crm", "search", "CrmSearchTool"⟩] ∧
      bothRuns.2.locate "generated_tools" = .ok (.package (.ofString "generated_tools")) ∧
      bothRuns.2.lookUp (.ofString "generated_tools") (Name.package "crm")
        = some (.package (GeneratedSettings.default.packagePath "crm")) ∧
      bothRuns.2.lookUp (GeneratedSettings.default.packagePath "crm") "CrmSearchTool"
        = some (.file (GeneratedSettings.default.classPath "crm" "CrmSearchTool")) := by
  decide +kernel

theorem plain_crmWorkspace : crmWorkspace.files.Plain :=
  FileTree.plain_of_entries (by simp [crmWorkspace])

theorem kept_of_spared_crm :
    ∃ d : Descriptor, d.key = ⟨"crm", "search", "CrmSearchTool"⟩ ∧
      laterImporter.files.read d.path = .ok (Text.Utf8.encode d.source) ∧
      ∀ table : BindingTable, ∃ c table',
        table.find? laterImporter d.key d.module = .ok (some c, table') ∧ c.key = d.key := by
  obtain ⟨hends, hkeys, hbase, hpackage, hmodule⟩ := bothRuns_run
  rw [bothRuns_eq] at hends hbase hpackage hmodule
  have hgenerate : crmAndN8n.generate [] plain crmWorkspace = (.ok .success, bothWorkspace) :=
    Prod.ext hends rfl
  have hdescriptors : (crmAndN8n.descriptors [] plain crmWorkspace).map Descriptor.key
      = [⟨"crm", "search", "CrmSearchTool"⟩] := by
    rw [descriptors_eq selectServers_all, cleaned_of_keeping crmAndN8n rfl]
    exact hkeys
  obtain ⟨d, hd, hkey⟩ := List.mem_map.1 (hdescriptors ▸ List.mem_singleton_self _)
  have hserver : d.server = "crm" := congrArg BindingKey.server hkey
  have htool : d.tool = "search" := congrArg BindingKey.tool hkey
  have hclass : d.className = "CrmSearchTool" := congrArg BindingKey.className hkey
  have hspares : crmAndN8n.Spares ["n8n"] replacing [n8nServer] bothWorkspace d := by
    refine ⟨fun _ server hmem => ?_, fun other hother => ?_⟩
    · rw [List.mem_singleton.1 hmem, hserver]
      decide
    · have hnone : [n8nServer].flatMap (·.definitions
          (crmAndN8n.cleaned replacing [n8nServer] bothWorkspace).files) = [] := rfl
      rw [descriptors_eq selectServers_n8n, hnone, Plan.ordered, Text.sortedByPair,
        sortBy] at hother
      cases hother
  have hserves : laterImporter.Serves crmAndN8n.project.settings.generated := by
    have hnamespace : trimDots crmAndN8n.project.settings.generated.namespaceName
        = "generated_tools" := trimDots_crm
    constructor
    · rw [hnamespace]
      decide +kernel
    · rw [hnamespace]
      exact hbase
  obtain ⟨hread, hfinds⟩ := kept_of_spared plain_crmWorkspace hgenerate rfl hd selectServers_n8n
    (fun _ => hspares) rfl hserves
  have hclear : laterImporter.Clear crmAndN8n.project.settings.generated d := by
    refine ⟨hserver ▸ hpackage, ?_⟩
    rw [hserver, hclass, show crmAndN8n.project.settings.generated = .default from rfl, hmodule]
    simp
  exact ⟨d, hkey, hread, hfinds hclear (hserver ▸ by decide) (htool ▸ by decide)⟩

/-- A module in whose place another server's is written is gone. -/
theorem read_ne_of_overwritten (hplain : w.files.Plain) {wanted : List String}
    (h : run.generate wanted options w = (.ok .success, w')) (hdry : options.dryRun = false)
    {d other : Descriptor} (hmade : d.Made run.project.settings.generated)
    (hother : other ∈ run.descriptors wanted options w) (hpath : other.path = d.path)
    (hserver : other.server ≠ d.server) :
    w'.files.read d.path ≠ .ok (Text.Utf8.encode d.source) := by
  intro hread
  have hwritten := (read_of_generate hplain h hdry hother).2
  rw [hpath, hread, Except.ok.injEq] at hwritten
  have hmade' := made_of_mem_descriptors hother
  have hsource : d.source = other.source := by
    have hdecoded := congrArg Text.Utf8.decode? hwritten
    simpa using hdecoded
  have hread? {d : Descriptor} (hmade : d.Made run.project.settings.generated) :
      (ToolModule.read? d.source).map ToolModule.server = some d.server := by
    obtain ⟨description, schemaText, hsource⟩ := hmade.source
    rw [hsource, ToolModule.read?_write hmade.named.isIdentifier.isNameChar]
    rfl
  have hservers := (hread? hmade').symm
  rw [← hsource, hread? hmade, Option.some.injEq] at hservers
  exact hserver hservers

end ToolBindings.CommandRun
