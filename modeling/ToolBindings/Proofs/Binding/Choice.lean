import ToolBindings.Binding.Toolset
import ToolBindings.Proofs.Binding.Allowlist
import ToolBindings.Proofs.Command.Selected

/-!
# Chosen classes

A choice compares class names alone. No two resolved tools have one class name
(`named_of_resolve`), and a class that is found for a tool has the name that was looked up
(`BindingTable.find?_ok`), so that identifiers choose just the tools that were resolved under them,
in whatever form they are given (`choose_of_backed`).
-/

namespace ToolBindings

/-- A class is found for a resolved tool: in the table, or else by an import of its identifier. -/
def ResolvedTool.BackedBy (importer : Importer) (table : BindingTable) (t : ResolvedTool)
    (c : ToolClass) : Prop :=
  ∃ after, table.find? importer t.key t.identifier = .ok (some c, after)

namespace Registry

variable {registry : Registry} {importer : Importer} {table : BindingTable} {wanted : List String}
  {tools : List ResolvedTool} {classOf : ResolvedTool → ToolClass}

/-- Tools with different keys that the table backs are all found, one after the other. -/
theorem collect_of_backed (hnodup : (tools.map ResolvedTool.key).Nodup)
    (h : ∀ t ∈ tools, t.BackedBy importer table (classOf t)) :
    ∃ after, collect importer table tools = ⟨tools.map classOf, after, none⟩ := by
  induction tools generalizing table with
  | nil => exact ⟨table, rfl⟩
  | cons t tools ih =>
    obtain ⟨hnew, hnodup⟩ := List.nodup_cons.1 hnodup
    obtain ⟨⟨next, hfind⟩, htools⟩ := List.forall_mem_cons.1 h
    have hkept := (BindingTable.find?_ok hfind).2
    have hnext : ∀ u ∈ tools, u.BackedBy importer next (classOf u) := by
      intro u hu
      have hother : u.key ≠ t.key := fun heq => hnew (heq ▸ List.mem_map_of_mem hu)
      obtain ⟨after, hfound⟩ := htools u hu
      exact BindingTable.find?_congr (hkept u.key hother) hfound
    obtain ⟨after, hcollect⟩ := ih hnodup hnext
    have hfind' : table.find? importer ⟨t.server, t.tool, t.className⟩ t.identifier
        = .ok (some (classOf t), next) := hfind
    refine ⟨after, ?_⟩
    rw [collect, hfind']
    simp only [hcollect, List.map_cons]

/-! ## Names of resolved tools -/

/-- What is resolved is what a plan describes. -/
theorem exists_describe_of_resolve (h : registry.resolve wanted .everything = .ok tools) :
    ∃ (g : GeneratedSettings) (definitions : List Definition),
      g.namespaceName = registry.namespaceName ∧
        tools = (Plan.describe g true .empty definitions).1.map Descriptor.resolved := by
  obtain ⟨project, files, namespaceName⟩ := registry
  cases hselect : project.settings.selectServers wanted with
  | error fault =>
    rw [resolve, hselect] at h
    cases h
  | ok servers =>
    have hnul := hasNul_of_resolve hselect h
    rw [resolve, hselect] at h
    simp only [bind, Except.bind, resolveServers_everything _ _ hnul] at h
    refine ⟨⟨"", namespaceName⟩, Plan.ordered (servers.flatMap (·.definitions files)), rfl, ?_⟩
    rw [(describe_eq_replay _ _ _).2,
      map_key_ordered (Settings.ascending_of_selectServers hselect)]
    exact (Except.ok.inj h).symm

/-- Resolved tools have different class names, which are identifiers, and the dotted identifier of a
tool ends in its class name. -/
theorem named_of_resolve (h : registry.resolve wanted .everything = .ok tools) :
    (tools.map ResolvedTool.className).Nodup ∧
      ∀ t ∈ tools, Name.IsIdentifier t.className ∧
        t.identifier = dottedName (trimDots registry.namespaceName) (Name.package t.server)
          t.className := by
  obtain ⟨g, definitions, hnamespace, rfl⟩ := exists_describe_of_resolve h
  constructor
  · rw [List.map_map]
    exact Plan.nodup_describe .empty definitions
  · intro t ht
    obtain ⟨d, hd, rfl⟩ := List.mem_map.1 ht
    have hmade := (Plan.made_of_mem_describe hd).1
    exact ⟨hmade.named.isIdentifier, hnamespace ▸ hmade.module⟩

end Registry

/-! ## Selectors -/

namespace Selector

theorem target?_identifier {dotted : String} (h : dotted ≠ "") :
    (identifier dotted).target? = (Importer.namesOf dotted).getLast? := by
  rw [target?, if_neg h, Importer.namesOf, List.getLast?_map]

end Selector

namespace ResolvedTool

/-- The ways to name a resolved tool: by its dotted identifier, by the bare name of its class, and
by the class itself. -/
def selectors (t : ResolvedTool) : List Selector :=
  [.identifier t.identifier, .identifier t.className, .className t.className]

variable {t : ResolvedTool} {namespaceName : String} (hname : Name.IsIdentifier t.className)
  (hidentifier : t.identifier = dottedName namespaceName (Name.package t.server) t.className)

include hname hidentifier

theorem getLast?_identifier : (Importer.namesOf t.identifier).getLast? = some t.className := by
  rw [hidentifier, Importer.namesOf_dottedName _ (Name.isIdentifier_package _) hname,
    List.getLast?_append]
  rfl

/-- However a resolved tool is named, its class is meant. -/
theorem target?_of_mem_selectors {s : Selector} (hs : s ∈ t.selectors) :
    s.target? = some t.className := by
  have hdotted : t.identifier ≠ "" := by
    rw [hidentifier]
    simp [dottedName]
  have hbare : t.className ≠ "" := by
    obtain ⟨c, rest, hchars, -⟩ := hname.startsWithLetter
    intro hempty
    rw [hempty] at hchars
    cases hchars
  simp only [selectors, List.mem_cons, List.not_mem_nil, or_false] at hs
  rcases hs with rfl | rfl | rfl
  · rw [Selector.target?_identifier hdotted, getLast?_identifier hname hidentifier]
  · rw [Selector.target?_identifier hbare, Importer.namesOf_of_isIdentifier hname]
    rfl
  · rfl

end ResolvedTool

namespace Registry

variable {registry : Registry} {importer : Importer} {table : BindingTable} {wanted : List String}
  {tools : List ResolvedTool} {classOf : ResolvedTool → ToolClass}

/-- Selectors for some identifiers mean the classes of the tools resolved under them. -/
theorem mem_targets_iff (hresolve : registry.resolve wanted .everything = .ok tools)
    {identifiers : List String} {selectors : List Selector}
    (h : List.Forall₂ (fun identifier s => ∃ t ∈ tools, t.identifier = identifier ∧ s ∈ t.selectors)
      identifiers selectors) {t : ResolvedTool} (ht : t ∈ tools) :
    t.className ∈ Selector.targets selectors ↔ t.identifier ∈ identifiers := by
  obtain ⟨hnodup, hnamed⟩ := named_of_resolve hresolve
  induction h with
  | nil => simp [Selector.targets]
  | @cons identifier s identifiers selectors hfirst hrest ih =>
    obtain ⟨u, hu, rfl, hs⟩ := hfirst
    have htarget := ResolvedTool.target?_of_mem_selectors (hnamed u hu).1 (hnamed u hu).2 hs
    have hsame : t.className = u.className ↔ t.identifier = u.identifier := by
      constructor
      · intro hclass
        rw [List.inj_on_of_nodup_map hnodup ht hu hclass]
      · intro hidentifier
        have hlast := ResolvedTool.getLast?_identifier (hnamed t ht).1 (hnamed t ht).2
        rw [hidentifier, ResolvedTool.getLast?_identifier (hnamed u hu).1 (hnamed u hu).2] at hlast
        exact (Option.some.inj hlast).symm
    rw [Selector.targets, List.filterMap_cons_some htarget, List.mem_cons, List.mem_cons, hsame]
    exact or_congr_right ih

/-- Where the table backs every resolved tool with a class, identifiers choose exactly the classes
of the tools that were resolved under them and leave out exactly those of the others, in the order
of resolution, whether they are given as dotted identifiers, as bare class names or as classes. -/
theorem choose_of_backed (hresolve : registry.resolve wanted .everything = .ok tools)
    (hbacked : ∀ t ∈ tools, t.BackedBy importer table (classOf t))
    {identifiers : List String} {selectors : List Selector}
    (hselectors : List.Forall₂
      (fun identifier s => ∃ t ∈ tools, t.identifier = identifier ∧ s ∈ t.selectors)
      identifiers selectors) :
    (∀ t ∈ tools, (classOf t).key = t.key) ∧
      ∃ after,
        registry.choose importer table wanted .all = (.ok (tools.map classOf), after) ∧
        registry.choose importer table wanted (.only selectors)
          = (.ok ((tools.filter (·.identifier ∈ identifiers)).map classOf), after) ∧
        registry.choose importer table wanted (.except selectors)
          = (.ok ((tools.filter (·.identifier ∉ identifiers)).map classOf), after) := by
  have hkeys : ∀ t ∈ tools, (classOf t).key = t.key := by
    intro t ht
    obtain ⟨after, hfind⟩ := hbacked t ht
    exact (BindingTable.find?_ok hfind).1
  have hnodup : (tools.map ResolvedTool.key).Nodup := by
    refine List.Nodup.of_map BindingKey.className ?_
    rw [List.map_map]
    exact (named_of_resolve hresolve).1
  obtain ⟨after, hcollect⟩ := collect_of_backed hnodup hbacked
  have hclasses : registry.classes importer table wanted .everything
      = ⟨tools.map classOf, after, none⟩ := by
    rw [classes, hresolve]
    exact hcollect
  -- to keep and to leave out come to the same question: is the class a target
  have hchosen (p : Bool → Bool) :
      (tools.map classOf).filter (fun c => p ((Selector.targets selectors).contains c.className))
        = (tools.filter fun t => p (t.identifier ∈ identifiers)).map classOf := by
    rw [List.filter_map]
    refine congrArg _ (List.filter_congr fun t ht => congrArg p ?_)
    have hclass : (classOf t).className = t.className := congrArg BindingKey.className (hkeys t ht)
    rw [Bool.eq_iff_iff, List.contains_iff_mem, decide_eq_true_iff, hclass]
    exact mem_targets_iff hresolve hselectors ht
  refine ⟨hkeys, after, ?_, ?_, ?_⟩
  · rw [choose, hclasses]
    rfl
  · rw [choose, hclasses]
    exact congrArg (·, after) (congrArg Except.ok (hchosen id))
  · rw [choose, hclasses]
    simp only [decide_not]
    exact congrArg (·, after) (congrArg Except.ok (hchosen not))

/-- A class with nothing but the names of a resolved tool. -/
def plainClass (t : ResolvedTool) : ToolClass := .plain t.className t.server t.tool ""

/-- A table with a class for each of two tools with one full name. -/
def dottedTable : BindingTable := ⟨[plainClass crmTool, plainClass euTool], by decide⟩

/-- These modules, found from the working directory on. -/
def dottedImporter : Importer := ⟨dottedFiles, .ofString ".", .ofLetters fun _ => false⟩

/-- The bare name of a class with a suffix chooses this class and no other. -/
theorem choose_of_backed_dotted :
    ∃ after,
      dotted.choose dottedImporter dottedTable []
          (.only [.identifier "CrmEuSearchTool347fa199"])
        = (.ok [plainClass euTool], after) ∧
      dotted.choose dottedImporter dottedTable []
          (.except [.identifier "CrmEuSearchTool347fa199"])
        = (.ok [plainClass crmTool], after) := by
  have hbacked : ∀ t ∈ [crmTool, euTool],
      t.BackedBy dottedImporter dottedTable (plainClass t) := by
    rintro t (_ | ⟨_, _ | ⟨_, ⟨⟩⟩⟩)
    · exact ⟨dottedTable, rfl⟩
    · exact ⟨dottedTable, rfl⟩
  have hselectors : List.Forall₂
      (fun identifier s => ∃ t ∈ [crmTool, euTool], t.identifier = identifier ∧ s ∈ t.selectors)
      [euTool.identifier] [.identifier "CrmEuSearchTool347fa199"] :=
    .cons ⟨euTool, .tail _ (.head _), rfl, .tail _ (.head _)⟩ .nil
  obtain ⟨-, after, -, honly, hexcept⟩ := choose_of_backed resolve_dotted hbacked hselectors
  exact ⟨after, honly, hexcept⟩

end Registry
end ToolBindings
