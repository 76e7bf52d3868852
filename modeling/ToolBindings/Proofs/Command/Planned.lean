import ToolBindings.Command.Plan
import ToolBindings.Proofs.Data.Sorted
import ToolBindings.Proofs.FileTree.Reading
import ToolBindings.Proofs.Name.Identifier
import ToolBindings.Proofs.Name.Suffixed

/-!
# What a plan holds

The descriptors of a plan have class names of their own, their files are where their names say
(`Descriptor.Made`), and no other file of a plan has the name of one of theirs
(`PlannedFile.IsOther`).
-/

namespace ToolBindings

/-- What the class of a descriptor is known under. -/
def Descriptor.key (d : Descriptor) : BindingKey := ⟨d.server, d.tool, d.className⟩

namespace Descriptor

/-- Descriptors in the order of their dotted names. -/
def byModule (descriptors : List Descriptor) : List Descriptor :=
  Text.sortedByPair (fun d => (d.module, d.className)) descriptors

theorem imports_eq_map_byModule (descriptors : List Descriptor) :
    imports descriptors = (byModule descriptors).map classImport :=
  (Text.map_sortedByPair (fun i : ClassImport => (i.module, i.className)) classImport
    descriptors).symm

theorem perm_byModule (descriptors : List Descriptor) : (byModule descriptors).Perm descriptors :=
  Text.perm_sortedByPair _ _

end Descriptor

/-- The path that a planned file is written to. -/
def PlannedFile.path : PlannedFile → Path
  | .module path _ _ => path
  | .marker directory => directory.child packageMarker

theorem moduleFile_inj {a b : String} (h : moduleFile a = moduleFile b) : a = b := by
  have htexts := congrArg String.toList h
  simp only [moduleFile, String.toList_append] at htexts
  exact String.toList_inj.1 (List.append_cancel_right htexts)

/-- A name that was given out to a tool. -/
def IsToolName (name : String) : Prop :=
  ∃ (claimed next : Name.Claimed) (server tool : String) (suffixes : Bool),
    claimed.allocateTool server tool suffixes = .ok (name, next)

/-- A name that was given out to the toolset of a server. -/
def IsToolsetName (server name : String) : Prop :=
  ∃ (claimed next : Name.Claimed) (suffixes : Bool),
    claimed.allocateToolset server suffixes = .ok (name, next)

/-- A descriptor as a plan makes it: the class name is one that was given out, and everything else
follows from the server, the tool and this name. -/
structure Descriptor.Made (g : GeneratedSettings) (d : Descriptor) : Prop where
  named : IsToolName d.className
  module : d.module = g.className d.server d.className
  path : d.path = g.classPath d.server d.className
  source : ∃ description schemaText : String,
    d.source = ToolModule.write d.className d.server d.tool description schemaText

namespace IsToolName

variable {name : String} (h : IsToolName name)

include h

theorem isIdentifier : Name.IsIdentifier name := by
  obtain ⟨claimed, next, server, tool, suffixes, h⟩ := h
  exact (Name.Allocated.tool claimed next server tool suffixes h).isIdentifier

/-- The marker of a package is no module of a tool. -/
theorem ne_marker : name ≠ "__init__" := by
  rintro rfl
  have hchar := h.isIdentifier.isAlphanum '_' (by decide)
  revert hchar
  decide

theorem mem_T : 'T' ∈ name.toList := by
  obtain ⟨claimed, next, server, tool, suffixes, h⟩ := h
  obtain ⟨front, hfront⟩ := Name.identifier_append (Name.studly server ++ Name.studly tool) "Tool"
  have hbase : 'T' ∈ (Name.toolBase server tool).toList := by
    rw [Name.toolBase, hfront]
    exact List.mem_append_right front (by decide)
  rcases Name.Claimed.allocate_forms h with rfl | ⟨n, rfl⟩
  · exact hbase
  · rw [Name.toList_suffixedName]
    exact List.mem_append_left _ hbase

/-- No toolset has the name of a tool. -/
theorem not_isToolsetName (server : String) : ¬IsToolsetName server name := by
  obtain ⟨claimed, next, server, tool, suffixes, h⟩ := h
  rintro ⟨claimed', next', suffixes', h'⟩
  exact Name.Claimed.tool_ne_toolset h h' rfl

/-- A name with an `s` behind its last `l` is none of a tool. -/
private theorem ne_of_lastL {other : String} (front back : List Char)
    (hother : Name.LastL other front back) (hs : 's' ∈ back) : name ≠ other := by
  obtain ⟨claimed, next, server, tool, suffixes, h⟩ := h
  obtain ⟨front', back', hname, hnone⟩ := Name.Claimed.lastL_of_allocateTool h
  rintro rfl
  rw [(hname.unique hother).2] at hnone
  exact hnone hs

theorem ne_aggregateName : name ≠ aggregateName :=
  h.ne_of_lastL "McpToo".toList "set".toList ⟨by decide, by decide⟩ (by decide)

theorem ne_staticToolset : name ≠ "StaticToolset" :=
  h.ne_of_lastL "StaticToo".toList "set".toList ⟨by decide, by decide⟩ (by decide)

theorem ne_mcpTool : name ≠ "McpTool" := by
  obtain ⟨claimed, next, server, tool, suffixes, h⟩ := h
  exact Name.Claimed.ne_mcpTool_of_allocateTool h

end IsToolName

/-- A file that is not for a tool: no tool has the name of its module. -/
def PlannedFile.IsOther (f : PlannedFile) : Prop :=
  ∃ (directory : Path) (name : String),
    f.path = directory.child (moduleFile name) ∧ ¬IsToolName name

theorem PlannedFile.IsOther.lastName_ne {f : PlannedFile} (h : f.IsOther) {name : String}
    (hname : IsToolName name) : f.path.lastName ≠ moduleFile name := by
  obtain ⟨directory, other, hpath, hother⟩ := h
  rw [hpath, Path.lastName_child]
  exact fun hfile => hother (moduleFile_inj hfile ▸ hname)

theorem PlannedFile.isOther_toolset {server name : String} (h : IsToolsetName server name)
    (directory : Path) (module source : String) :
    (PlannedFile.module (directory.child (moduleFile name)) module source).IsOther :=
  ⟨directory, name, rfl, fun hname => hname.not_isToolsetName server h⟩

theorem PlannedFile.isOther_aggregate (g : GeneratedSettings) (source : String) :
    (PlannedFile.module g.aggregatePath g.aggregateModule source).IsOther :=
  ⟨g.base, aggregateName, rfl, fun hname => hname.ne_aggregateName rfl⟩

theorem PlannedFile.isOther_marker (directory : Path) : (marker directory).IsOther :=
  ⟨directory, "__init__", rfl, fun h => h.ne_marker rfl⟩

namespace Plan

variable {g : GeneratedSettings} {suffixes : Bool}

/-! ## Descriptors -/

/-- Descriptors are made of names that were free. -/
theorem made_of_mem_describe {claimed : Name.Claimed} {definitions : List Definition}
    {d : Descriptor} (h : d ∈ (describe g suffixes claimed definitions).1) :
    d.Made g ∧ d.className ∉ claimed := by
  induction definitions generalizing claimed with
  | nil => cases h
  | cons definition rest ih =>
    rw [describe] at h
    split at h
    · cases h
    · rename_i className next hallocate
      obtain ⟨hfree, rfl⟩ := Name.Claimed.allocate_ok hallocate
      rcases List.mem_cons.1 h with rfl | h
      · exact ⟨⟨⟨_, _, _, _, _, hallocate⟩, rfl, rfl, ⟨_, _, rfl⟩⟩, hfree⟩
      · obtain ⟨hmade, hnot⟩ := ih h
        rw [Name.Claimed.mem_claim, not_or] at hnot
        exact ⟨hmade, hnot.2⟩

/-- No two descriptors have the same class name. -/
theorem nodup_describe (claimed : Name.Claimed) (definitions : List Definition) :
    ((describe g suffixes claimed definitions).1.map Descriptor.className).Nodup := by
  induction definitions generalizing claimed with
  | nil => exact List.nodup_nil
  | cons definition rest ih =>
    rw [describe]
    split
    · exact List.nodup_nil
    · rename_i className next hallocate
      obtain ⟨-, rfl⟩ := Name.Claimed.allocate_ok hallocate
      refine List.nodup_cons.2 ⟨?_, ih _⟩
      intro hmem
      obtain ⟨d, hd, hname⟩ := List.mem_map.1 hmem
      have hnot := (made_of_mem_describe hd).2
      rw [hname] at hnot
      exact hnot (Name.Claimed.mem_claim.2 (Or.inl rfl))

/-! ## Files -/

/-- Servers with the names of their toolsets: the servers are the first ones of a list, up to a
collision, and the names are different ones that were free. -/
structure NamedToolsets (claimed : Name.Claimed) (servers : List String)
    (named : List (String × String)) : Prop where
  servers : named.map (·.1) <+: servers
  nodup : (named.map (·.2)).Nodup
  given : ∀ n ∈ named, IsToolsetName n.1 n.2
  free : ∀ n ∈ named, n.2 ∉ claimed

theorem NamedToolsets.nil (claimed : Name.Claimed) (servers : List String) :
    NamedToolsets claimed servers [] :=
  ⟨List.nil_prefix, List.nodup_nil, List.forall_mem_nil _, List.forall_mem_nil _⟩

/-- The files of toolsets are those of servers whose toolsets were given names; without a collision
these are all the servers. -/
theorem files_toolsets (g : GeneratedSettings) (suffixes : Bool) (descriptors : List Descriptor)
    (claimed : Name.Claimed) (servers : List String) :
    ∃ named, NamedToolsets claimed servers named ∧
      (toolsets g suffixes descriptors claimed servers).files
        = named.flatMap (fun n => toolsetFiles g descriptors n.1 n.2) ∧
      ((toolsets g suffixes descriptors claimed servers).collision = none →
        named.map (·.1) = servers) := by
  induction servers generalizing claimed with
  | nil => exact ⟨[], .nil claimed [], rfl, fun _ => rfl⟩
  | cons server rest ih =>
    rw [toolsets]
    split
    · refine ⟨[], .nil claimed _, rfl, fun hnone => ?_⟩
      cases hnone
    · rename_i className next hallocate
      obtain ⟨hfree, rfl⟩ := Name.Claimed.allocate_ok hallocate
      obtain ⟨named, hnamed, hfiles, hall⟩ := ih (claimed.claim className)
      have hlater : ∀ n ∈ named, n.2 ≠ className ∧ n.2 ∉ claimed := by
        intro n hn
        have hnot := hnamed.free n hn
        rwa [Name.Claimed.mem_claim, not_or] at hnot
      refine ⟨(server, className) :: named, ⟨?_, ?_, ?_, ?_⟩, ?_, fun hnone => ?_⟩
      · exact List.cons_prefix_cons.2 ⟨rfl, hnamed.servers⟩
      · refine List.nodup_cons.2 ⟨fun hmem => ?_, hnamed.nodup⟩
        obtain ⟨n, hn, hname⟩ := List.mem_map.1 hmem
        exact (hlater n hn).1 hname
      · exact List.forall_mem_cons.2 ⟨⟨_, _, _, hallocate⟩, hnamed.given⟩
      · exact List.forall_mem_cons.2 ⟨hfree, fun n hn => (hlater n hn).2⟩
      · exact congrArg (toolsetFiles g descriptors server className ++ ·) hfiles
      · exact congrArg (server :: ·) (hall hnone)

theorem isOther_of_mem_toolsets {descriptors : List Descriptor} {claimed : Name.Claimed}
    {servers : List String} {f : PlannedFile}
    (h : f ∈ (toolsets g suffixes descriptors claimed servers).files) : f.IsOther := by
  obtain ⟨named, hnamed, hfiles, -⟩ := files_toolsets g suffixes descriptors claimed servers
  rw [hfiles] at h
  obtain ⟨n, hn, hf⟩ := List.mem_flatMap.1 h
  rw [toolsetFiles, List.mem_pair] at hf
  rcases hf with rfl | rfl
  · exact PlannedFile.isOther_toolset (hnamed.given n hn) _ _ _
  · exact PlannedFile.isOther_marker _

theorem isOther_of_mem_aggregateFiles {descriptors : List Descriptor} {f : PlannedFile}
    (h : f ∈ aggregateFiles g descriptors) : f.IsOther := by
  rw [aggregateFiles, List.mem_pair] at h
  rcases h with rfl | rfl
  · exact PlannedFile.isOther_aggregate g _
  · exact PlannedFile.isOther_marker _

/-- Every file of a plan is that of a descriptor, or one of a toolset or the aggregate. -/
theorem mem_files_cases {definitions : List Definition} {f : PlannedFile}
    (h : f ∈ (ofDefinitions g suffixes definitions).files) :
    ∃ descriptors, (describe g suffixes .empty (ordered definitions)).1 = descriptors ∧
      ((∃ d ∈ descriptors, f = d.file) ∨
        f ∈ (toolsets g suffixes descriptors .empty (serversOf descriptors)).files ∨
        f ∈ aggregateFiles g descriptors) := by
  rw [ofDefinitions] at h
  generalize describe g suffixes .empty (ordered definitions) = described at *
  obtain ⟨descriptors, collision⟩ := described
  refine ⟨descriptors, rfl, ?_⟩
  have hdescribed (h : f ∈ descriptors.map Descriptor.file) : ∃ d ∈ descriptors, f = d.file := by
    obtain ⟨d, hd, rfl⟩ := List.mem_map.1 h
    exact ⟨d, hd, rfl⟩
  dsimp only at h ⊢
  split at h
  · exact Or.inl (hdescribed h)
  · rcases List.mem_append.1 h with h | h
    · rcases List.mem_append.1 h with h | h
      · exact Or.inl (hdescribed h)
      · exact Or.inr (Or.inl h)
    · split at h
      · cases h
      · exact Or.inr (Or.inr h)

/-- Every file of a plan is that of a descriptor, or not for a tool. -/
theorem mem_files_ofDefinitions {definitions : List Definition} {f : PlannedFile}
    (h : f ∈ (ofDefinitions g suffixes definitions).files) :
    (∃ d ∈ (describe g suffixes .empty (ordered definitions)).1, f = d.file) ∨ f.IsOther := by
  obtain ⟨descriptors, rfl, hdescriptor | htoolset | haggregate⟩ := mem_files_cases h
  · exact Or.inl hdescriptor
  · exact Or.inr (isOther_of_mem_toolsets htoolset)
  · exact Or.inr (isOther_of_mem_aggregateFiles haggregate)

/-- A plan that ends without a collision has a descriptor for every definition. -/
theorem describe_of_collision {definitions : List Definition}
    (hcollision : (ofDefinitions g suffixes definitions).collision = none) :
    (describe g suffixes .empty (ordered definitions)).2 = none := by
  rw [ofDefinitions] at hcollision
  dsimp only at hcollision
  split at hcollision
  · exact hcollision
  · rename_i hgoes
    rw [not_or, Option.not_isSome_iff_eq_none] at hgoes
    exact hgoes.1

/-- A plan with descriptors goes on with the toolsets, and with the aggregate if no toolset collides. -/
theorem ofDefinitions_eq {definitions : List Definition} {descriptors : List Descriptor}
    (hdescribe : describe g suffixes .empty (ordered definitions) = (descriptors, none))
    (hsome : descriptors ≠ []) :
    ofDefinitions g suffixes definitions =
      let more := toolsets g suffixes descriptors .empty (serversOf descriptors)
      ⟨descriptors.map Descriptor.file ++ more.files ++
        if more.collision.isSome then [] else aggregateFiles g descriptors, more.collision⟩ := by
  rw [ofDefinitions, hdescribe]
  exact if_neg (by simp [hsome])

section

variable {definitions : List Definition} {descriptors : List Descriptor}
variable (hdescriptors : (describe g suffixes .empty (ordered definitions)).1 = descriptors)
variable (hsome : descriptors ≠ [])
variable (hcollision : (ofDefinitions g suffixes definitions).collision = none)

include hdescriptors hsome hcollision

/-- A plan that ends without a collision has a toolset for every server. -/
theorem collision_toolsets :
    (toolsets g suffixes descriptors .empty (serversOf descriptors)).collision = none := by
  have hdescribe : describe g suffixes .empty (ordered definitions) = (descriptors, none) :=
    Prod.ext hdescriptors (describe_of_collision hcollision)
  rwa [ofDefinitions_eq hdescribe hsome] at hcollision

/-- A plan that ends without a collision writes its descriptors, then toolsets, then the aggregate. -/
theorem files_ofDefinitions :
    (ofDefinitions g suffixes definitions).files = descriptors.map Descriptor.file ++
      ((toolsets g suffixes descriptors .empty (serversOf descriptors)).files ++
        aggregateFiles g descriptors) := by
  have htoolsets := collision_toolsets hdescriptors hsome hcollision
  have hdescribe : describe g suffixes .empty (ordered definitions) = (descriptors, none) :=
    Prod.ext hdescriptors (describe_of_collision hcollision)
  rw [ofDefinitions_eq hdescribe hsome]
  dsimp only
  rw [htoolsets]
  exact List.append_assoc _ _ _

end

end Plan
end ToolBindings
