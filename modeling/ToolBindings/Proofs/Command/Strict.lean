import ToolBindings.Proofs.Command.Package
import ToolBindings.Proofs.Command.Selected

/-!
# Plans without suffixes

Where suffixes are not allowed a plan goes as far as base names are new (`describe_based`,
`toolsets_based`): it collides exactly if a base name comes again (`exists_collides_iff`), at the first
that does and with the files before it (`collision_eq_some_iff`). A plan that does not collide is the
plan with suffixes (`ofDefinitions_suffixes`).
-/

namespace ToolBindings

/-! ## First repetitions -/

/-- The first entry of a list whose key has come before, and the entries before it. -/
structure FirstRepeat {α κ : Type} (key : α → κ) (l before : List α) (a : α) : Prop where
  begins : before ++ [a] <+: l
  distinct : (before.map key).Nodup
  again : key a ∈ before.map key

section

variable {α κ : Type} {key : α → κ} {l before : List α} {a : α}

theorem FirstRepeat.not_nodup (h : FirstRepeat key l before a) : ¬(l.map key).Nodup := by
  intro hnodup
  have hbegins : (before.map key ++ [key a]).Nodup := by
    have hall := hnodup.sublist (h.begins.sublist.map key)
    rwa [List.map_append] at hall
  exact (List.nodup_append.1 hbegins).2.2 _ h.again _ (List.mem_singleton_self _) rfl

/-- Keys are different, unless one comes again. -/
theorem exists_firstRepeat_iff (key : α → κ) (l : List α) :
    (∃ before a, FirstRepeat key l before a) ↔ ¬(l.map key).Nodup := by
  refine ⟨fun ⟨before, a, h⟩ => h.not_nodup, fun h => ?_⟩
  -- from the end: the last entry is the first to repeat a key only if no earlier one does
  induction l using List.reverseRecOn with
  | nil => exact absurd List.nodup_nil h
  | append_singleton l a ih =>
    by_cases hnodup : (l.map key).Nodup
    · refine ⟨l, a, List.prefix_refl _, hnodup, ?_⟩
      by_contra hnew
      rw [List.map_append, List.map_singleton] at h
      exact h (List.nodup_append.2 ⟨hnodup, List.nodup_singleton _, by simpa using hnew⟩)
    · obtain ⟨before, b, hrepeat⟩ := ih hnodup
      exact ⟨before, b, hrepeat.begins.trans (List.prefix_append l [a]), hrepeat.distinct,
        hrepeat.again⟩

end

/-! ## Base names -/

/-- The class name of a definition before collisions are resolved. -/
def Definition.base (d : Definition) : String := Name.toolBase d.server d.tool.name

/-- The descriptor of a definition whose class has its base name. -/
def Descriptor.based (g : GeneratedSettings) (d : Definition) : Descriptor :=
  .ofDefinition g d d.base

namespace Name.Claimed

variable {claimed : Claimed} {name : String} {server tool : String}

/-- Adds names one after the other. -/
def claimAll (claimed : Claimed) (names : List String) : Claimed := names.foldl claim claimed

theorem mem_claimAll {names : List String} :
    name ∈ claimed.claimAll names ↔ name ∈ names ∨ name ∈ claimed := by
  induction names generalizing claimed with
  | nil => simp [claimAll]
  | cons first rest ih =>
    rw [claimAll, List.foldl_cons, ← claimAll, ih, mem_claim, List.mem_cons]
    tauto

/-- A base name that is free is given out. -/
theorem allocateTool_of_free (h : toolBase server tool ∉ claimed) (suffixes : Bool) :
    claimed.allocateTool server tool suffixes
      = .ok (toolBase server tool, claimed.claim (toolBase server tool)) := by
  rw [allocateTool, allocate, if_neg h]

theorem allocateTool_of_taken (h : toolBase server tool ∈ claimed) :
    claimed.allocateTool server tool false
      = .error (.tool server tool (toolBase server tool)) := by
  rw [allocateTool, allocate, if_pos h]
  rfl

theorem allocateToolset_of_free (h : toolsetBase server ∉ claimed) (suffixes : Bool) :
    claimed.allocateToolset server suffixes
      = .ok (toolsetBase server, claimed.claim (toolsetBase server)) := by
  rw [allocateToolset, allocate, if_neg h]

theorem allocateToolset_of_taken (h : toolsetBase server ∈ claimed) :
    claimed.allocateToolset server false = .error (.toolset server (toolsetBase server)) := by
  rw [allocateToolset, allocate, if_pos h]
  rfl

end Name.Claimed

namespace Plan

variable {g : GeneratedSettings} {claimed : Name.Claimed} {suffixes : Bool}
  {definitions : List Definition} {collision : Name.Collision} {files : List PlannedFile}

/-! ## Descriptors -/

/-- As long as base names are new, definitions are given them. -/
theorem describe_based {before : List Definition} (hdistinct : (before.map Definition.base).Nodup)
    (hfree : ∀ d ∈ before, d.base ∉ claimed) (rest : List Definition) :
    describe g suffixes claimed (before ++ rest)
      = (before.map (.based g) ++
          (describe g suffixes (claimed.claimAll (before.map Definition.base)) rest).1,
        (describe g suffixes (claimed.claimAll (before.map Definition.base)) rest).2) := by
  induction before generalizing claimed with
  | nil => rfl
  | cons d before ih =>
    obtain ⟨hd, hbefore⟩ := List.forall_mem_cons.1 hfree
    rw [List.map_cons, List.nodup_cons] at hdistinct
    -- what is claimed first takes no name from the others, whose names are different
    have hlater : ∀ d' ∈ before, d'.base ∉ claimed.claim d.base := by
      intro d' hd'
      rw [Name.Claimed.mem_claim, not_or]
      exact ⟨fun hsame => hdistinct.1 (hsame ▸ List.mem_map_of_mem hd'), hbefore d' hd'⟩
    rw [List.cons_append, describe, Name.Claimed.allocateTool_of_free hd]
    dsimp only
    rw [← Definition.base, ih hdistinct.2 hlater]
    rfl

theorem describe_of_nodup (h : (definitions.map Definition.base).Nodup) :
    describe g suffixes .empty definitions = (definitions.map (.based g), none) := by
  have hall : describe g suffixes .empty (definitions ++ []) = _ :=
    describe_based h (fun d _ => Name.Claimed.not_mem_empty d.base) []
  rw [List.append_nil] at hall
  rw [hall, describe, List.append_nil]

/-- The first base name that comes again ends the descriptors. -/
theorem describe_of_firstRepeat {before : List Definition} {d : Definition}
    (h : FirstRepeat Definition.base definitions before d) :
    describe g false .empty definitions
      = (before.map (.based g), some (.tool d.server d.tool.name d.base)) := by
  obtain ⟨rest, rfl⟩ := h.begins
  have htaken : d.base ∈ Name.Claimed.empty.claimAll (before.map Definition.base) :=
    Name.Claimed.mem_claimAll.2 (Or.inl h.again)
  rw [List.append_assoc, describe_based h.distinct fun d _ => Name.Claimed.not_mem_empty d.base,
    List.singleton_append, describe, Name.Claimed.allocateTool_of_taken htaken]
  simp [Definition.base]

/-! ## Toolsets -/

section

variable {descriptors : List Descriptor}

/-- The files of the toolsets of servers that all have their base names. -/
def basedToolsets (g : GeneratedSettings) (descriptors : List Descriptor) (servers : List String) :
    List PlannedFile :=
  servers.flatMap fun server => toolsetFiles g descriptors server (Name.toolsetBase server)

/-- As long as base names are new, toolsets are given them. -/
theorem toolsets_based {before : List String} (hdistinct : (before.map Name.toolsetBase).Nodup)
    (hfree : ∀ server ∈ before, Name.toolsetBase server ∉ claimed) (rest : List String) :
    toolsets g suffixes descriptors claimed (before ++ rest)
      = ⟨basedToolsets g descriptors before ++
          (toolsets g suffixes descriptors
            (claimed.claimAll (before.map Name.toolsetBase)) rest).files,
        (toolsets g suffixes descriptors
          (claimed.claimAll (before.map Name.toolsetBase)) rest).collision⟩ := by
  induction before generalizing claimed with
  | nil => rfl
  | cons server before ih =>
    obtain ⟨hserver, hbefore⟩ := List.forall_mem_cons.1 hfree
    rw [List.map_cons, List.nodup_cons] at hdistinct
    have hlater : ∀ other ∈ before,
        Name.toolsetBase other ∉ claimed.claim (Name.toolsetBase server) := by
      intro other hother
      rw [Name.Claimed.mem_claim, not_or]
      exact ⟨fun hsame => hdistinct.1 (hsame ▸ List.mem_map_of_mem hother), hbefore other hother⟩
    rw [List.cons_append, toolsets, Name.Claimed.allocateToolset_of_free hserver]
    dsimp only
    rw [ih hdistinct.2 hlater]
    simp [basedToolsets, Name.Claimed.claimAll]

theorem toolsets_of_nodup {servers : List String} (h : (servers.map Name.toolsetBase).Nodup) :
    (toolsets g suffixes descriptors .empty servers).collision = none := by
  have hall : toolsets g suffixes descriptors .empty (servers ++ []) = _ :=
    toolsets_based h (fun server _ => Name.Claimed.not_mem_empty _) []
  rw [List.append_nil] at hall
  rw [hall]
  rfl

/-- The first base name that comes again ends the toolsets. -/
theorem toolsets_of_firstRepeat {servers before : List String} {server : String}
    (h : FirstRepeat Name.toolsetBase servers before server) :
    toolsets g false descriptors .empty servers
      = ⟨basedToolsets g descriptors before,
        some (.toolset server (Name.toolsetBase server))⟩ := by
  obtain ⟨rest, rfl⟩ := h.begins
  have htaken : Name.toolsetBase server
      ∈ Name.Claimed.empty.claimAll (before.map Name.toolsetBase) :=
    Name.Claimed.mem_claimAll.2 (Or.inl h.again)
  rw [List.append_assoc, toolsets_based h.distinct fun server _ => Name.Claimed.not_mem_empty _,
    List.singleton_append, toolsets, Name.Claimed.allocateToolset_of_taken htaken]
  simp

/-- Toolsets that meet no collision are the same where suffixes are allowed. -/
theorem toolsets_suffixes {servers : List String}
    (h : (toolsets g suffixes descriptors claimed servers).collision = none) :
    toolsets g suffixes descriptors claimed servers
      = toolsets g true descriptors claimed servers := by
  induction servers generalizing claimed with
  | nil => rfl
  | cons server rest ih =>
    rw [toolsets] at h ⊢
    rw [toolsets]
    by_cases htaken : Name.toolsetBase server ∈ claimed
    · cases suffixes with
      | true => rfl
      | false =>
        rw [Name.Claimed.allocateToolset_of_taken htaken] at h
        cases h
    · rw [Name.Claimed.allocateToolset_of_free htaken] at h ⊢
      rw [Name.Claimed.allocateToolset_of_free htaken]
      dsimp only at h ⊢
      rw [ih h]

end

/-! ## The whole -/

/-- The descriptors of definitions that all have their base names. -/
def basedDescriptors (g : GeneratedSettings) (definitions : List Definition) : List Descriptor :=
  (ordered definitions).map (.based g)

/-- How the plan for definitions collides where suffixes are not allowed, and the files that it holds
by then: the modules of the definitions before the first whose base name has come before; or, if there
is none, the modules of all, and the toolsets of the servers before the first of which this is so. -/
inductive Collides (g : GeneratedSettings) (definitions : List Definition) :
    Name.Collision → List PlannedFile → Prop where
  | tool {before : List Definition} {d : Definition}
      (h : FirstRepeat Definition.base (ordered definitions) before d) :
      Collides g definitions (.tool d.server d.tool.name d.base)
        ((before.map (.based g)).map Descriptor.file)
  | toolset {before : List String} {server : String}
      (hdistinct : (definitions.map Definition.base).Nodup)
      (h : FirstRepeat Name.toolsetBase (serversOf (basedDescriptors g definitions)) before server) :
      Collides g definitions (.toolset server (Name.toolsetBase server))
        ((basedDescriptors g definitions).map Descriptor.file ++
          basedToolsets g (basedDescriptors g definitions) before)

/-- Two definitions have one base name, or the toolsets of two servers with definitions do. -/
def SharesBase (definitions : List Definition) : Prop :=
  ¬(definitions.map Definition.base).Nodup ∨
    ∃ d ∈ definitions, ∃ d' ∈ definitions,
      d.server ≠ d'.server ∧ Name.toolsetBase d.server = Name.toolsetBase d'.server

example : SharesBase [⟨"crm", ⟨"a b", "", []⟩⟩, ⟨"crm", ⟨"a-b", "", []⟩⟩] := Or.inl (by decide)

theorem perm_ordered (definitions : List Definition) : (ordered definitions).Perm definitions :=
  Text.perm_sortedByPair _ _

theorem nodup_map_ordered {κ : Type} (key : Definition → κ) (definitions : List Definition) :
    ((ordered definitions).map key).Nodup ↔ (definitions.map key).Nodup :=
  ((perm_ordered definitions).map key).nodup_iff

theorem mem_serversOf_basedDescriptors {server : String} :
    server ∈ serversOf (basedDescriptors g definitions)
      ↔ ∃ d ∈ definitions, d.server = server := by
  rw [mem_serversOf, basedDescriptors]
  constructor
  · rintro ⟨_, hmem, rfl⟩
    obtain ⟨d, hd, rfl⟩ := List.mem_map.1 hmem
    exact ⟨d, (perm_ordered definitions).mem_iff.1 hd, rfl⟩
  · rintro ⟨d, hd, rfl⟩
    exact ⟨.based g d, List.mem_map_of_mem ((perm_ordered definitions).mem_iff.2 hd), rfl⟩

/-- The base names of toolsets are different exactly if no two servers with definitions share one. -/
theorem nodup_toolsetBases_iff (g : GeneratedSettings) (definitions : List Definition) :
    ((serversOf (basedDescriptors g definitions)).map Name.toolsetBase).Nodup ↔
      ¬∃ d ∈ definitions, ∃ d' ∈ definitions,
        d.server ≠ d'.server ∧ Name.toolsetBase d.server = Name.toolsetBase d'.server := by
  have hservers : (serversOf (basedDescriptors g definitions)).Nodup :=
    (pairwise_serversOf _).imp fun {a b} hlt => by
      rintro rfl
      exact String.lt_irrefl a hlt
  rw [List.nodup_map_iff_inj_on hservers]
  simp only [mem_serversOf_basedDescriptors]
  constructor
  · rintro hinj ⟨d, hd, d', hd', hne, hsame⟩
    exact hne (hinj _ ⟨d, hd, rfl⟩ _ ⟨d', hd', rfl⟩ hsame)
  · rintro hnone _ ⟨d, hd, rfl⟩ _ ⟨d', hd', rfl⟩ hsame
    by_contra hne
    exact hnone ⟨d, hd, d', hd', hne, hsame⟩

/-- A plan collides if base names are shared, and only then. -/
theorem exists_collides_iff (g : GeneratedSettings) (definitions : List Definition) :
    (∃ collision files, Collides g definitions collision files) ↔ SharesBase definitions := by
  have htools := exists_firstRepeat_iff Definition.base (ordered definitions)
  have htoolsets := exists_firstRepeat_iff Name.toolsetBase
    (serversOf (basedDescriptors g definitions))
  rw [nodup_map_ordered] at htools
  rw [nodup_toolsetBases_iff, not_not] at htoolsets
  constructor
  · rintro ⟨_, _, h | ⟨hdistinct, h⟩⟩
    · exact Or.inl (htools.1 ⟨_, _, h⟩)
    · exact Or.inr (htoolsets.1 ⟨_, _, h⟩)
  · intro h
    by_cases hdistinct : (definitions.map Definition.base).Nodup
    · obtain ⟨before, server, hrepeat⟩ := htoolsets.2 (h.resolve_left (not_not.2 hdistinct))
      exact ⟨_, _, .toolset hdistinct hrepeat⟩
    · obtain ⟨before, d, hrepeat⟩ := htools.2 hdistinct
      exact ⟨_, _, .tool hrepeat⟩

theorem ofDefinitions_of_collides (h : Collides g definitions collision files) :
    ofDefinitions g false definitions = ⟨files, some collision⟩ := by
  cases h with
  | tool h =>
    rw [ofDefinitions, describe_of_firstRepeat h]
    rfl
  | @toolset before server hdistinct h =>
    have hdescribe : describe g false .empty (ordered definitions)
        = (basedDescriptors g definitions, none) :=
      describe_of_nodup ((nodup_map_ordered _ _).2 hdistinct)
    have hsome : basedDescriptors g definitions ≠ [] := by
      intro hnil
      have hserver : server ∈ serversOf (basedDescriptors g definitions) :=
        h.begins.subset (List.mem_append_right before (List.mem_singleton_self server))
      obtain ⟨d, hd, -⟩ := mem_serversOf.1 hserver
      rw [hnil] at hd
      cases hd
    rw [ofDefinitions_eq hdescribe hsome, toolsets_of_firstRepeat h]
    simp

/-- Where no base names are shared, there is no collision. -/
theorem collision_of_not_sharesBase (h : ¬SharesBase definitions) :
    (ofDefinitions g suffixes definitions).collision = none := by
  rw [SharesBase, not_or, not_not, ← nodup_toolsetBases_iff g] at h
  have hdescribe : describe g suffixes .empty (ordered definitions)
      = (basedDescriptors g definitions, none) :=
    describe_of_nodup ((nodup_map_ordered _ _).2 h.1)
  by_cases hnone : basedDescriptors g definitions = []
  · rw [ofDefinitions, hdescribe, hnone]
    rfl
  · rw [ofDefinitions_eq hdescribe hnone]
    exact toolsets_of_nodup h.2

/-- A plan without suffixes ends with the collision of the first base name that comes again, behind
the files before it. -/
theorem collision_eq_some_iff :
    (ofDefinitions g false definitions).collision = some collision ↔
      ∃ files, Collides g definitions collision files := by
  constructor
  · intro h
    have hshares : SharesBase definitions := by
      by_contra hnot
      rw [collision_of_not_sharesBase hnot] at h
      cases h
    -- a plan ends with one collision, so that what is shared leads to this one
    obtain ⟨collision', files, hcollides⟩ := (exists_collides_iff g definitions).2 hshares
    rw [ofDefinitions_of_collides hcollides, Option.some.injEq] at h
    exact ⟨files, h ▸ hcollides⟩
  · rintro ⟨files, h⟩
    rw [ofDefinitions_of_collides h]

/-- A plan that ends without a collision is the same where suffixes are allowed. -/
theorem ofDefinitions_suffixes (h : (ofDefinitions g suffixes definitions).collision = none) :
    ofDefinitions g suffixes definitions = ofDefinitions g true definitions := by
  have hdescribe := describe_suffixes (describe_of_collision h)
  by_cases hnone : (describe g suffixes .empty (ordered definitions)).1 = []
  · rw [ofDefinitions, ofDefinitions, ← hdescribe]
    generalize describe g suffixes .empty (ordered definitions) = described at hnone
    obtain ⟨_, collision⟩ := described
    cases hnone
    simp
  · have htoolsets := toolsets_suffixes (collision_toolsets rfl hnone h)
    have hends : describe g suffixes .empty (ordered definitions)
        = ((describe g suffixes .empty (ordered definitions)).1, none) :=
      Prod.ext rfl (describe_of_collision h)
    rw [ofDefinitions_eq hends hnone, ofDefinitions_eq (hdescribe ▸ hends) hnone, htoolsets]

end Plan
end ToolBindings
