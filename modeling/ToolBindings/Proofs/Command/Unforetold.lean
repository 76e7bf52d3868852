import ToolBindings.Proofs.Command.Rehearsal

/-!
# What a dry run does not foretell

A dry run of a generation looks up what it would clean in the tree as it stands, and ends where that
has no answer (`generate_trying_of_unfound`). The generation itself goes on from what cleaning has left
(`generateFor_of_cleaned`): there a link into what was cleaned leads nowhere, and so does a manifest
path through it (`not_foretold_cleaned`).
-/

namespace ToolBindings.CommandRun

variable {run : CommandRun} {servers : List Server} {path : Path} {wanted : List String}
  {w w' : Workspace} {crash : Crash}

/-- Once it has cleaned, a generation goes on as one that does not clean. -/
theorem generateFor_of_cleaned {dryRun failOnCollision : Bool}
    (h : cleanPaths dryRun (cleanTargets run.project.settings.generated servers) w
      = (.ok (), w')) :
    run.generateFor ⟨dryRun, true, failOnCollision⟩ servers w
      = run.generateFor ⟨dryRun, false, failOnCollision⟩ servers w' := by
  rw [generateFor, generateFor]
  simp only [if_true, h, Bool.false_eq_true, if_false, cleanPaths]

theorem cleanPaths_of_error {dryRun : Bool} {before after : List Path} {between : Workspace}
    (hbefore : cleanPaths dryRun before w = (.ok (), between))
    (hpath : cleanPath dryRun path between = (.error crash, w')) :
    cleanPaths dryRun (before ++ path :: after) w = (.error crash, w') := by
  induction before generalizing w with
  | nil =>
    cases hbefore
    rw [List.nil_append, cleanPaths, hpath]
  | cons first rest ih =>
    rw [cleanPaths] at hbefore
    rw [List.cons_append, cleanPaths]
    split at hbefore
    · exact ih hbefore
    · cases hbefore

/-- A dry run ends at the first path to clean that cannot be looked up. -/
theorem generate_trying_of_unfound (hselect : run.project.settings.selectServers wanted = .ok servers)
    (hsome : servers ≠ []) {failOnCollision : Bool} {before after : List Path} {e : FileError}
    (htargets : cleanTargets run.project.settings.generated servers = before ++ path :: after)
    (hbefore : ∀ path ∈ before, ∃ found, w.files.isPresent path = .ok found)
    (hpath : w.files.isPresent path = .error e) :
    (run.generate wanted ⟨true, true, failOnCollision⟩ w).1 = .ok .failure ∧
      (run.generate wanted ⟨true, true, failOnCollision⟩ w).2.notices.getLast?
        = some (.notGenerated e) := by
  obtain ⟨said, hclean, -⟩ := cleanPaths_trying hbefore
  have hstop : cleanPath true path (w.sayAll said) = (.error (.file e), w.sayAll said) := by
    rw [cleanPath, Workspace.files_sayAll, hpath]
  have hfor : run.generateFor ⟨true, true, failOnCollision⟩ servers w
      = (.error (.file e), w.sayAll said) := by
    rw [generateFor]
    simp only [if_true, htargets, cleanPaths_of_error hclean hstop]
  rw [generate_eq hselect hsome, reportingObstacles, hfor]
  cases e with
  | embeddedNul => exact absurd hpath FileTree.isPresent_ne_embeddedNul
  | linkedTree => exact ⟨rfl, by simp [Workspace.say]⟩
  | obstacle what path target => exact ⟨rfl, by simp [Workspace.say]⟩

/-- A link target in the package. -/
private theorem ofString_inPackage {name : List Char} (hslash : '/' ∉ name)
    (hempty : String.ofList name ≠ "") (hdot : String.ofList name ≠ ".") :
    Path.ofString (String.ofList ("Crm".toList ++ '/' :: name))
      = ⟨"", ["Crm", String.ofList name]⟩ := by
  have hpieces : Text.splitOn '/' ("Crm".toList ++ '/' :: name) = ["Crm".toList, name] := by
    rw [Text.splitOn_append, Text.splitOn_of_not_mem (by decide),
      Text.splitOn_of_not_mem hslash]
    rfl
  rw [Path.ofString, String.toList_ofList, hpieces]
  simp [hempty, hdot, Path.anchorOf]

/-- A name that is too long for a file. -/
def longName : String := String.ofList (List.replicate 256 'n')

theorem longName_ne {text : String} (h : text.length ≠ 256) : longName ≠ text :=
  fun heq => h (heq ▸ String.length_ofList.trans List.length_replicate)

/-- A link target in the package with this name. -/
def longTarget : String := String.ofList ("Crm".toList ++ '/' :: List.replicate 256 'n')

theorem ofString_longTarget : Path.ofString longTarget = ⟨"", ["Crm", longName]⟩ :=
  ofString_inPackage (fun h => absurd (List.eq_of_mem_replicate h) (by decide))
    (longName_ne (by decide)) (longName_ne (by decide))

/-- The aggregate is a link into the package, to a name that is too long. -/
def overlongWorkspace : Workspace :=
  workspaceOf [(["generated_tools"], .directory), (["generated_tools", "Crm"], .directory),
    (["generated_tools", "Crm", "old.py"], .file []),
    (["generated_tools", "McpToolset.py"], .link longTarget)]

/-- What cleaning leaves of it. -/
def danglingWorkspace : Workspace :=
  workspaceOf [(["generated_tools"], .directory),
    (["generated_tools", "McpToolset.py"], .link longTarget)]

/-- What is said in words. -/
def texts (outcome : Except Crash ExitStatus × Workspace) : List String :=
  outcome.2.notices.map Notice.text

/-- The package that is cleaned. -/
def crmPackage : Path := ⟨"", ["generated_tools", "Crm"]⟩

/-- The aggregate that is cleaned. -/
def crmAggregate : Path := ⟨"", ["generated_tools", "McpToolset.py"]⟩

/-- What is cleaned and what stands there, evaluated once. -/
private theorem overlong_cleaned :
    cleanTargets crm.project.settings.generated [manifestServer] = [crmPackage, crmAggregate] ∧
      overlongWorkspace.files.isPresent crmPackage = .ok true ∧
      overlongWorkspace.files.isDirectory crmPackage = .ok true ∧
      overlongWorkspace.files.locate false crmPackage = .ok ["generated_tools", "Crm"] ∧
      overlongWorkspace.files.walk true 39 ["generated_tools"] ["Crm", longName]
        = .error .nameTooLong ∧
      danglingWorkspace.files.walk true 39 ["generated_tools"] ["Crm", longName]
        = .error .missing ∧
      (Notice.notGenerated (.obstacle .nameTooLong crmAggregate none)).text
        = "Unable to write generated files: " ++
          "[Errno 36] File name too long: 'generated_tools/McpToolset.py'" := by
  decide +kernel

/-- The aggregate leads to the link's target. -/
private theorem walk_crmAggregate {t : FileTree} (hhere : t.here = [])
    (hdirectory : t.at? ["generated_tools"] = some .directory)
    (hlink : t.at? ["generated_tools", "McpToolset.py"] = some (.link longTarget)) :
    t.walk true FileTree.mostLinks (t.start crmAggregate) crmAggregate.names
      = t.walk true 39 ["generated_tools"] ["Crm", longName] := by
  have hstart : t.start crmAggregate = [] := hhere
  rw [hstart, crmAggregate, FileTree.walk_enter rfl (by decide) (by decide) (by simp [hdirectory]),
    FileTree.mostLinks, List.nil_append,
    FileTree.walk_follow hdirectory (by decide) (by decide) hlink (fun _ => rfl),
    ofString_longTarget]
  rfl

theorem isPresent_overlong : overlongWorkspace.files.isPresent crmAggregate
    = .error (.obstacle .nameTooLong crmAggregate none) := by
  obtain ⟨-, -, -, -, hlong, -⟩ := overlong_cleaned
  exact FileTree.isPresent_of_nameTooLong (by decide) (by decide)
    ((walk_crmAggregate rfl rfl rfl).trans hlong)

theorem isPresent_dangling : danglingWorkspace.files.isPresent crmAggregate = .ok false := by
  obtain ⟨-, -, -, -, -, hmissing, -⟩ := overlong_cleaned
  exact FileTree.isPresent_of_onTheWay (by decide) (by decide)
    ((walk_crmAggregate rfl rfl rfl).trans hmissing) (Or.inl rfl)

/-- Cleaning removes the package, and then leaves the link alone, since it leads nowhere. -/
theorem cleanPaths_overlong :
    cleanPaths false (cleanTargets crm.project.settings.generated [manifestServer])
        overlongWorkspace = (.ok (), danglingWorkspace.say (.cleaned crmPackage)) := by
  obtain ⟨htargets, hpresent, hdirectory, hlocate, -⟩ := overlong_cleaned
  have hentry : overlongWorkspace.files.at? ["generated_tools", "Crm"] = some .directory := rfl
  have hremoved : removeAny overlongWorkspace.files crmPackage = .ok danglingWorkspace.files := by
    rw [removeAny, hdirectory]
    simp only [FileTree.removeTree, hlocate, hentry]
    rfl
  have hfirst : cleanPath false crmPackage overlongWorkspace
      = (.ok (), danglingWorkspace.say (.cleaned crmPackage)) := by
    rw [cleanPath, hpresent]
    simp only [hremoved]
    rfl
  have hsecond : cleanPath false crmAggregate (danglingWorkspace.say (.cleaned crmPackage))
      = (.ok (), danglingWorkspace.say (.cleaned crmPackage)) :=
    cleanPath_of_absent isPresent_dangling
  rw [htargets, cleanPaths, hfirst]
  dsimp only
  rw [cleanPaths, hsecond]
  rfl

theorem generate_overlong :
    (crm.generate [] ⟨false, true, false⟩ overlongWorkspace).1 = .ok .success ∧
      texts (crm.generate [] ⟨false, true, false⟩ overlongWorkspace)
        = ["Cleaned: generated_tools/Crm", "Skipping [crm] - manifest not found: crm.json",
          "Generated tools: 0"] := by
  rw [generate_eq selectServers_crm (by simp), reportingObstacles,
    generateFor_of_cleaned cleanPaths_overlong, ← reportingObstacles]
  decide +kernel

theorem generate_trying_overlong :
    (crm.generate [] ⟨true, true, false⟩ overlongWorkspace).1 = .ok .failure ∧
      (texts (crm.generate [] ⟨true, true, false⟩ overlongWorkspace)).getLast?
        = some ("Unable to write generated files: " ++
          "[Errno 36] File name too long: 'generated_tools/McpToolset.py'") := by
  obtain ⟨htargets, hpackage, -, -, -, -, htext⟩ := overlong_cleaned
  have hbefore : ∀ path ∈ [crmPackage],
      ∃ found, overlongWorkspace.files.isPresent path = .ok found := by
    intro path hpath
    rw [List.mem_singleton.1 hpath]
    exact ⟨true, hpackage⟩
  obtain ⟨hfailure, hlast⟩ := generate_trying_of_unfound selectServers_crm (by simp)
    htargets hbefore isPresent_overlong
  refine ⟨hfailure, ?_⟩
  rw [texts, List.getLast?_map, hlast, Option.map_some, htext]

/-- A package, a manifest beside it and one elsewhere, and a link to the package. -/
def detourWorkspace : Workspace :=
  workspaceOf [(["generated_tools"], .directory), (["generated_tools", "Crm"], .directory),
    (["generated_tools", "Crm", "old.py"], .file []),
    (["generated_tools", "crm.json"], searchManifest),
    (["other.json"], .file (Text.Utf8.encode (listing "find"))),
    (["m"], .link "generated_tools/Crm")]

/-- The run for two servers of this package. The manifest of the second is found through the link; that
of the first makes the run write the package again, so that the link leads somewhere in the end. -/
def detour : CommandRun :=
  let settings : Settings :=
    { servers := [("Crm", .map [(.text "manifest", .text "other.json")]),
        ("crm", .map [(.text "manifest", .text "m/../crm.json")])]
      nodup := by simp
      retry := []
      generated := .default }
  { crm with project := ⟨settings, []⟩ }

/-- What the run comes to and what it says, evaluated once. -/
private theorem detour_run :
    detourWorkspace.files.locate true (.ofString "m/../crm.json")
        = .ok ["generated_tools", "crm.json"] ∧
      (detour.generate [] ⟨false, true, false⟩ detourWorkspace).1 = .ok .success ∧
      texts (detour.generate [] ⟨false, true, false⟩ detourWorkspace)
        = ["Cleaned: generated_tools/Crm", "Skipping [crm] - manifest not found: m/../crm.json",
          "Generated: generated_tools/Crm/CrmFindTool.py",
          "Generated: generated_tools/Crm/CrmToolset.py", "Generated: generated_tools/McpToolset.py",
          "Generated tools: 3"] := by
  decide +kernel

private theorem detour_trying :
    (texts (detour.generate [] ⟨true, true, false⟩ detourWorkspace)).getLast?
      = some "Generated tools: 5" := by
  decide +kernel

/-- Once the package is cleaned, a manifest beside it that is reached through a link into it is not
found any more, where a dry run finds it. And a link into the package leads nowhere and is not in the
way, where a dry run cannot look it up. -/
theorem not_foretold_cleaned :
    (detourWorkspace.files.locate true (.ofString "m/../crm.json")
          = .ok ["generated_tools", "crm.json"] ∧
        (detour.generate [] ⟨false, true, false⟩ detourWorkspace).1 = .ok .success ∧
        texts (detour.generate [] ⟨false, true, false⟩ detourWorkspace)
          = ["Cleaned: generated_tools/Crm", "Skipping [crm] - manifest not found: m/../crm.json",
            "Generated: generated_tools/Crm/CrmFindTool.py",
            "Generated: generated_tools/Crm/CrmToolset.py",
            "Generated: generated_tools/McpToolset.py", "Generated tools: 3"] ∧
        (texts (detour.generate [] ⟨true, true, false⟩ detourWorkspace)).getLast?
          = some "Generated tools: 5") ∧
      (crm.generate [] ⟨false, true, false⟩ overlongWorkspace).1 = .ok .success ∧
        texts (crm.generate [] ⟨false, true, false⟩ overlongWorkspace)
          = ["Cleaned: generated_tools/Crm", "Skipping [crm] - manifest not found: crm.json",
            "Generated tools: 0"] ∧
        (crm.generate [] ⟨true, true, false⟩ overlongWorkspace).1 = .ok .failure ∧
        (texts (crm.generate [] ⟨true, true, false⟩ overlongWorkspace)).getLast?
          = some ("Unable to write generated files: " ++
            "[Errno 36] File name too long: 'generated_tools/McpToolset.py'") := by
  obtain ⟨hthere, hsuccess, htexts⟩ := detour_run
  exact ⟨⟨hthere, hsuccess, htexts, detour_trying⟩, generate_overlong.1, generate_overlong.2,
    generate_trying_overlong⟩

end ToolBindings.CommandRun
