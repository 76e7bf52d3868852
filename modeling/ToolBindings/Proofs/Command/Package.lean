import ToolBindings.Proofs.Command.Outputs
import ToolBindings.Proofs.Data.Reordered

/-!
# The generated package

A plan that ends without a collision holds the files of a package (`Plan.files_eq_packageFiles`). It
names no path twice but for the markers of directories that servers share
(`Plan.pairwise_apart_packageFiles`), its aggregate lists the class of every descriptor once
(`Plan.Listing`), and its toolsets list the same classes, server by server (`Plan.Parts`).
-/

namespace ToolBindings

/-! ## Classes in order -/

namespace Descriptor

variable {g : GeneratedSettings} {descriptors : List Descriptor}

/-- Dotted names tell class names apart. -/
theorem Made.className_eq {a b : Descriptor} (ha : a.Made g) (hb : b.Made g)
    (h : a.module = b.module) : a.className = b.className := by
  -- the last of the names is the class name, whatever dots the namespace has
  have hlast {d : Descriptor} (hd : d.Made g) :
      (Importer.namesOf d.module).getLast? = some d.className := by
    rw [hd.module, GeneratedSettings.className, Importer.namesOf_dottedName _
      (Name.isIdentifier_package d.server) hd.named.isIdentifier]
    exact List.getLast?_concat
  have hnames := (hlast ha).symm.trans (h ▸ hlast hb)
  exact Option.some.inj hnames

/-- Descriptors of different class names have one order, and keep it where some are left out. -/
theorem filter_byModule (hnodup : (descriptors.map className).Nodup) (p : Descriptor → Bool) :
    (byModule descriptors).filter p = byModule (descriptors.filter p) := by
  have hkeys : ((descriptors.filter p).map fun d => (d.module, d.className)).Nodup := by
    refine List.Nodup.of_map (·.2) ?_
    rw [List.map_map]
    exact hnodup.sublist (List.filter_sublist.map _)
  exact (Text.sortedByPair_eq_of_perm ((perm_byModule descriptors).filter p)
    ((Text.pairwise_sortedByPair _ descriptors).filter p) hkeys).symm

end Descriptor

namespace Plan

/-- The classes that an aggregate lists: those of all descriptors, each once, in ascending order of
dotted names; no class has the name of another or of a base class. -/
structure Listing (descriptors listing : List Descriptor) : Prop where
  perm : listing.Perm descriptors
  ascending : listing.Pairwise fun a b => a.module < b.module
  nodup : (listing.map Descriptor.className).Nodup
  notBase : ∀ d ∈ listing, d.className ≠ "StaticToolset" ∧ d.className ≠ "McpTool"

/-- The toolsets of servers, by server and class name: the servers are those of listed classes, each
once and in ascending order, and the lists of their classes are in order too and make up the whole
listing. -/
structure Parts (listing : List Descriptor) (named : List (String × String)) : Prop where
  ascending : (named.map (·.1)).Pairwise (· < ·)
  servers : ∀ server, server ∈ named.map (·.1) ↔ ∃ d ∈ listing, d.server = server
  sorted : ∀ n ∈ named,
    (listing.filter (·.server == n.1)).Pairwise fun a b => a.module < b.module
  covers : (named.flatMap fun n => listing.filter (·.server == n.1)).Perm listing

variable {g : GeneratedSettings} {descriptors listing : List Descriptor}
variable {named : List (String × String)}

theorem listing_byModule (hmade : ∀ d ∈ descriptors, d.Made g)
    (hnodup : (descriptors.map Descriptor.className).Nodup) :
    Listing descriptors (Descriptor.byModule descriptors) := by
  have hperm := Descriptor.perm_byModule descriptors
  have hmade' : ∀ d ∈ Descriptor.byModule descriptors, d.Made g :=
    fun d hd => hmade d (hperm.mem_iff.1 hd)
  have hnodup' : ((Descriptor.byModule descriptors).map Descriptor.className).Nodup :=
    (hperm.map _).nodup_iff.2 hnodup
  refine ⟨hperm, ?_, hnodup', fun d hd => ?_⟩
  · -- where two dotted names were equal, so would be the class names
    have hdistinct := List.pairwise_map.1 (List.nodup_iff_pairwise_ne.1 hnodup')
    have hsorted : (Descriptor.byModule descriptors).Pairwise fun a b =>
        Text.lePair (a.module, a.className) (b.module, b.className) :=
      Text.pairwise_sortedByPair _ _
    refine List.Pairwise.imp_of_mem ?_ (hsorted.and hdistinct)
    intro a b ha hb hab
    rcases Text.lePair_iff.1 hab.1 with hlt | ⟨hsame, -⟩
    · exact hlt
    · exact absurd ((hmade' a ha).className_eq (hmade' b hb) hsame) hab.2
  · exact ⟨(hmade' d hd).named.ne_staticToolset, (hmade' d hd).named.ne_mcpTool⟩

/-! ## Servers -/

private theorem nodup_eraseDups : ∀ l : List String, l.eraseDups.Nodup
  | [] => List.nodup_nil
  | a :: rest => by
    rw [List.eraseDups_cons, List.nodup_cons, List.mem_eraseDups]
    exact ⟨by simp, nodup_eraseDups _⟩
termination_by l => l.length
decreasing_by
  exact Nat.lt_succ_of_le (List.length_filter_le _ _)

theorem mem_serversOf {server : String} :
    server ∈ serversOf descriptors ↔ ∃ d ∈ descriptors, d.server = server := by
  rw [serversOf, Text.sorted, (perm_sortBy _ _).mem_iff, List.mem_eraseDups, List.mem_map]

/-- The servers of descriptors ascend. -/
theorem pairwise_serversOf (descriptors : List Descriptor) :
    (serversOf descriptors).Pairwise (· < ·) := by
  have hperm : (serversOf descriptors).Perm (descriptors.map (·.server)).eraseDups :=
    perm_sortBy _ _
  have hdistinct := List.nodup_iff_pairwise_ne.1 (hperm.nodup_iff.2 (nodup_eraseDups _))
  have hsorted := Text.pairwise_sortedBy (fun server => server)
    (descriptors.map (·.server)).eraseDups
  refine (hsorted.and hdistinct).imp fun {a b} hab => ?_
  exact String.not_le.1 fun hle => hab.2 (String.le_antisymm hab.1 hle)

/-- A list falls apart into the parts of its keys. -/
private theorem perm_flatMap_filter {α : Type} (key : α → String) {keys : List String}
    (hkeys : keys.Nodup) {l : List α} (hl : ∀ a ∈ l, key a ∈ keys) :
    (keys.flatMap fun k => l.filter (key · == k)).Perm l := by
  induction keys generalizing l with
  | nil =>
    have hnil : l = [] := List.eq_nil_iff_forall_not_mem.2 fun a ha => List.not_mem_nil (hl a ha)
    rw [hnil]
    exact .nil
  | cons k keys ih =>
    rw [List.nodup_cons] at hkeys
    have hrest : ∀ a ∈ l.filter (fun a => !(key a == k)), key a ∈ keys := by
      intro a ha
      rw [List.mem_filter] at ha
      exact (List.mem_cons.1 (hl a ha.1)).resolve_left (by simpa using ha.2)
    -- no later key loses anything to the first one
    have hsame : keys.flatMap (fun k' => (l.filter fun a => !(key a == k)).filter (key · == k'))
        = keys.flatMap fun k' => l.filter (key · == k') := by
      refine List.flatMap_congr fun k' hk' => ?_
      rw [List.filter_filter]
      refine List.filter_congr fun a _ => ?_
      by_cases hka : key a = k'
      · have hne : k' ≠ k := fun h => hkeys.1 (h ▸ hk')
        simp [hka, hne]
      · simp [hka]
    have hparts := ih hkeys.2 hrest
    rw [hsame] at hparts
    exact (hparts.append_left _).trans (List.filter_append_perm _ l)

theorem parts_of_listing (hlisting : Listing descriptors listing)
    (h : named.map (·.1) = serversOf descriptors) : Parts listing named := by
  have hservers (server : String) :
      server ∈ named.map (·.1) ↔ ∃ d ∈ listing, d.server = server := by
    rw [h, mem_serversOf]
    simp only [hlisting.perm.mem_iff]
  have hascending : (named.map (·.1)).Pairwise (· < ·) := h ▸ pairwise_serversOf descriptors
  have hnodup : (named.map (·.1)).Nodup :=
    hascending.imp fun {a b} hlt => by
      rintro rfl
      exact String.lt_irrefl a hlt
  refine ⟨hascending, hservers, fun n _ => hlisting.ascending.filter _, ?_⟩
  have hcovers := perm_flatMap_filter Descriptor.server hnodup
    fun d hd => (hservers d.server).2 ⟨d, hd, rfl⟩
  rwa [List.flatMap_map] at hcovers

/-! ## Files -/

/-- The files of a server's toolset, the classes taken from those that the aggregate lists. -/
def listedFiles (g : GeneratedSettings) (listing : List Descriptor) (n : String × String) :
    List PlannedFile :=
  let own := listing.filter (·.server == n.1)
  [.module (g.classPath n.1 n.2) (g.className n.1 n.2)
      (ToolsetModule.write ⟨n.2, own.map Descriptor.classImport⟩),
    .marker (g.packagePath n.1)]

/-- The files of the aggregate, unless it would list nothing. -/
def aggregateListed (g : GeneratedSettings) (listing : List Descriptor) : List PlannedFile :=
  if listing.isEmpty then []
  else
    [.module g.aggregatePath g.aggregateModule
        (ToolsetModule.write ⟨aggregateName, listing.map Descriptor.classImport⟩),
      .marker g.base]

/-- The files of a package: the modules of tools, the toolsets of servers, and the aggregate. -/
def packageFiles (g : GeneratedSettings) (descriptors listing : List Descriptor)
    (named : List (String × String)) : List PlannedFile :=
  descriptors.map Descriptor.file ++ (named.flatMap (listedFiles g listing) ++
    aggregateListed g listing)

theorem toolsetFiles_eq (hnodup : (descriptors.map Descriptor.className).Nodup)
    (n : String × String) :
    toolsetFiles g descriptors n.1 n.2 = listedFiles g (Descriptor.byModule descriptors) n := by
  rw [toolsetFiles, listedFiles, Descriptor.filter_byModule hnodup,
    Descriptor.imports_eq_map_byModule]

theorem aggregateFiles_eq (g : GeneratedSettings) (hsome : descriptors ≠ []) :
    aggregateFiles g descriptors = aggregateListed g (Descriptor.byModule descriptors) := by
  have hlisting : (Descriptor.byModule descriptors).isEmpty = false := by
    rw [List.isEmpty_eq_false_iff]
    intro hnil
    have hperm := Descriptor.perm_byModule descriptors
    rw [hnil] at hperm
    exact hsome hperm.nil_eq.symm
  rw [aggregateFiles, aggregateListed, hlisting, Descriptor.imports_eq_map_byModule]
  rfl

/-- A plan that ends without a collision holds the files of a package. -/
theorem files_eq_packageFiles {suffixes : Bool} {definitions : List Definition}
    (hdescriptors : (describe g suffixes .empty (ordered definitions)).1 = descriptors)
    (hcollision : (ofDefinitions g suffixes definitions).collision = none) :
    ∃ named, NamedToolsets .empty (serversOf descriptors) named ∧
      named.map (·.1) = serversOf descriptors ∧
      (ofDefinitions g suffixes definitions).files
        = packageFiles g descriptors (Descriptor.byModule descriptors) named := by
  have hnodup : (descriptors.map Descriptor.className).Nodup :=
    hdescriptors ▸ nodup_describe .empty (ordered definitions)
  by_cases hnone : descriptors = []
  · subst hnone
    have hends := describe_of_collision hcollision
    refine ⟨[], .nil .empty _, ?_, ?_⟩
    · exact rfl
    · rw [ofDefinitions]
      generalize describe g suffixes .empty (ordered definitions) = described at *
      obtain ⟨_, _⟩ := described
      cases hdescriptors
      cases hends
      rw [packageFiles, Descriptor.byModule, Text.sortedByPair, sortBy_nil]
      rfl
  · obtain ⟨named, hnamed, hfiles, hall⟩ :=
      files_toolsets g suffixes descriptors .empty (serversOf descriptors)
    refine ⟨named, hnamed, hall (collision_toolsets hdescriptors hnone hcollision), ?_⟩
    rw [files_ofDefinitions hdescriptors hnone hcollision, hfiles, packageFiles,
      aggregateFiles_eq g hnone]
    simp only [toolsetFiles_eq hnodup]

end Plan

/-! ## Paths -/

namespace PlannedFile

/-- Two files are not written to one path, unless both are the marker of one package. -/
def Apart (f f' : PlannedFile) : Prop :=
  f.path = f'.path → ∃ directory, f = .marker directory ∧ f' = .marker directory

variable {f f' : PlannedFile}

theorem apart_of_lastName_ne (h : f.path.lastName ≠ f'.path.lastName) : Apart f f' :=
  fun hpath => absurd (congrArg Path.lastName hpath) h

theorem apart_marker (directory directory' : Path) :
    Apart (.marker directory) (.marker directory') := by
  intro hpath
  have hparent : (directory.child packageMarker).parent = (directory'.child packageMarker).parent :=
    congrArg Path.parent hpath
  rw [Path.parent_child, Path.parent_child] at hparent
  exact ⟨directory, rfl, by rw [hparent]⟩

end PlannedFile

theorem Path.child_ne (p : Path) (name : String) : p.child name ≠ p := by
  intro h
  have hlength := congrArg (fun q => q.names.length) h
  simp [Path.child] at hlength

theorem IsToolsetName.moduleFile_ne_packageMarker {server name : String}
    (h : IsToolsetName server name) : moduleFile name ≠ packageMarker := by
  intro hfile
  have hname : name = "__init__" := moduleFile_inj hfile
  have hchar := h.isClassName.isAlphanum '_' (by rw [hname]; decide)
  revert hchar
  decide

namespace Plan

variable {g : GeneratedSettings} {descriptors listing : List Descriptor}
variable {named : List (String × String)} {f : PlannedFile}

theorem isOther_of_mem_listedFiles {n : String × String} (hn : IsToolsetName n.1 n.2)
    (h : f ∈ listedFiles g listing n) : f.IsOther := by
  rw [listedFiles, List.mem_pair] at h
  rcases h with rfl | rfl
  · exact PlannedFile.isOther_toolset hn _ _ _
  · exact PlannedFile.isOther_marker _

/-- The toolsets of servers are apart. -/
theorem pairwise_apart_listedFiles (hgiven : ∀ n ∈ named, IsToolsetName n.1 n.2)
    (hnodup : (named.map (·.2)).Nodup) :
    (named.flatMap (listedFiles g listing)).Pairwise PlannedFile.Apart := by
  have hmodule {n : String × String} (hn : n ∈ named) (directory : Path) (source : String) :
      (PlannedFile.module (g.classPath n.1 n.2) (g.className n.1 n.2) source).Apart
        (.marker directory) := by
    refine PlannedFile.apart_of_lastName_ne ?_
    rw [PlannedFile.path, PlannedFile.path, GeneratedSettings.classPath, Path.lastName_child,
      Path.lastName_child]
    exact (hgiven n hn).moduleFile_ne_packageMarker
  have hsymm {f f' : PlannedFile} (h : f.Apart f') : f'.Apart f := by
    intro hpath
    obtain ⟨directory, hf, hf'⟩ := h hpath.symm
    exact ⟨directory, hf', hf⟩
  refine List.pairwise_flatMap.2 ⟨fun n hn => ?_, ?_⟩
  · exact List.pairwise_pair.2 (hmodule hn _ _)
  · -- servers may share a directory, but the names of their toolsets differ
    refine List.Pairwise.imp_of_mem ?_ (List.pairwise_map.1 (List.nodup_iff_pairwise_ne.1 hnodup))
    intro n n' hn hn' hne f hf f' hf'
    rw [listedFiles, List.mem_pair] at hf hf'
    rcases hf with rfl | rfl <;> rcases hf' with rfl | rfl
    · refine PlannedFile.apart_of_lastName_ne ?_
      rw [PlannedFile.path, PlannedFile.path, GeneratedSettings.classPath,
        GeneratedSettings.classPath, Path.lastName_child, Path.lastName_child]
      exact fun hfile => hne (moduleFile_inj hfile)
    · exact hmodule hn _ _
    · exact hsymm (hmodule hn' _ _)
    · exact PlannedFile.apart_marker _ _

/-- What is in the directory of generated files itself is apart from what is in the packages. -/
theorem apart_of_mem_listedFiles (hf : f ∈ named.flatMap (listedFiles g listing)) {f' : PlannedFile}
    (hparent : f'.path.parent = g.base) : f.Apart f' := by
  have hbelow (server below : String) : (g.packagePath server).child below ≠ f'.path := by
    intro hsame
    have hparents := (congrArg Path.parent hsame).trans hparent
    rw [Path.parent_child] at hparents
    exact Path.child_ne _ _ hparents
  obtain ⟨n, -, hf⟩ := List.mem_flatMap.1 hf
  rw [listedFiles, List.mem_pair] at hf
  rcases hf with rfl | rfl
  · exact fun hsame => absurd hsame (hbelow _ _)
  · exact fun hsame => absurd hsame (hbelow _ _)

theorem mem_aggregateListed (h : f ∈ aggregateListed g listing) :
    f.IsOther ∧ f.path.parent = g.base := by
  rw [aggregateListed] at h
  split at h
  · cases h
  · rcases List.mem_pair.1 h with rfl | rfl
    · exact ⟨PlannedFile.isOther_aggregate g _, Path.parent_child _ _⟩
    · exact ⟨PlannedFile.isOther_marker _, Path.parent_child _ _⟩

theorem pairwise_apart_aggregateListed (g : GeneratedSettings) (listing : List Descriptor) :
    (aggregateListed g listing).Pairwise PlannedFile.Apart := by
  have hmarker : aggregateName ≠ "__init__" := by decide
  rw [aggregateListed]
  split
  · exact .nil
  · refine List.pairwise_pair.2 (PlannedFile.apart_of_lastName_ne ?_)
    rw [PlannedFile.path, PlannedFile.path, GeneratedSettings.aggregatePath, Path.lastName_child,
      Path.lastName_child]
    exact fun hfile => hmarker (moduleFile_inj hfile)

/-- No two files of a package have the same path, but for markers of one directory. -/
theorem pairwise_apart_packageFiles (hmade : ∀ d ∈ descriptors, d.Made g)
    (hnodup : (descriptors.map Descriptor.className).Nodup)
    (hgiven : ∀ n ∈ named, IsToolsetName n.1 n.2) (hnames : (named.map (·.2)).Nodup) :
    (packageFiles g descriptors listing named).Pairwise PlannedFile.Apart := by
  have hlast {d : Descriptor} (hd : d ∈ descriptors) :
      d.file.path.lastName = moduleFile d.className := by
    rw [Descriptor.file, PlannedFile.path, (hmade d hd).path, GeneratedSettings.classPath,
      Path.lastName_child]
  have htools : (descriptors.map Descriptor.file).Pairwise PlannedFile.Apart := by
    refine List.pairwise_map.2 (List.Pairwise.imp_of_mem ?_
      (List.pairwise_map.1 (List.nodup_iff_pairwise_ne.1 hnodup)))
    intro d d' hd hd' hne
    refine PlannedFile.apart_of_lastName_ne ?_
    rw [hlast hd, hlast hd']
    exact fun hfile => hne (moduleFile_inj hfile)
  have hothers : ∀ f ∈ named.flatMap (listedFiles g listing) ++ aggregateListed g listing,
      f.IsOther := by
    intro f hf
    rcases List.mem_append.1 hf with hf | hf
    · obtain ⟨n, hn, hf⟩ := List.mem_flatMap.1 hf
      exact isOther_of_mem_listedFiles (hgiven n hn) hf
    · exact (mem_aggregateListed hf).1
  refine List.pairwise_append.2 ⟨htools, List.pairwise_append.2
    ⟨pairwise_apart_listedFiles hgiven hnames, pairwise_apart_aggregateListed g listing, ?_⟩, ?_⟩
  · exact fun f hf f' hf' => apart_of_mem_listedFiles hf (mem_aggregateListed hf').2
  · -- no tool has the name of a toolset, the aggregate or a marker
    intro f hf f' hf'
    obtain ⟨d, hd, rfl⟩ := List.mem_map.1 hf
    refine PlannedFile.apart_of_lastName_ne fun hsame => ?_
    exact (hothers f' hf').lastName_ne (hmade d hd).named (hsame.symm.trans (hlast hd))

/-- However a plan ends, no two of its files have the same path, but for markers of one directory. -/
theorem pairwise_apart_ofDefinitions (g : GeneratedSettings) (suffixes : Bool)
    (definitions : List Definition) :
    (ofDefinitions g suffixes definitions).files.Pairwise PlannedFile.Apart := by
  have hmade : ∀ d ∈ (describe g suffixes .empty (ordered definitions)).1, d.Made g :=
    fun d hd => (made_of_mem_describe hd).1
  have hnodup : ((describe g suffixes .empty (ordered definitions)).1.map
      Descriptor.className).Nodup := nodup_describe .empty (ordered definitions)
  rw [ofDefinitions]
  generalize describe g suffixes .empty (ordered definitions) = described at hmade hnodup ⊢
  obtain ⟨descriptors, collision⟩ := described
  obtain ⟨named, hnamed, hfiles, -⟩ :=
    files_toolsets g suffixes descriptors .empty (serversOf descriptors)
  have hall : (packageFiles g descriptors (Descriptor.byModule descriptors) named).Pairwise
      PlannedFile.Apart := pairwise_apart_packageFiles hmade hnodup hnamed.given hnamed.nodup
  -- what a collision leaves out is at the end
  rw [packageFiles] at hall
  dsimp only
  split
  · exact hall.sublist (List.sublist_append_left _ _)
  · rename_i hgoes
    rw [not_or, List.isEmpty_iff] at hgoes
    rw [← List.append_assoc] at hall
    simp only [hfiles, toolsetFiles_eq hnodup]
    split
    · rw [List.append_nil]
      exact hall.sublist (List.sublist_append_left _ _)
    · rw [aggregateFiles_eq g hgoes.2]
      exact hall

end Plan

end ToolBindings
