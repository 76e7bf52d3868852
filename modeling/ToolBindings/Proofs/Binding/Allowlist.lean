import ToolBindings.Proofs.Command.Replay

/-!
# Allowlists only filter

Class names are claimed for every tool before the allowlist is asked, so what is resolved with an
allowlist is what is resolved without one, less the tools that it does not admit
(`resolve_restricted`). The full names of some pairs of server and tool admit the tools with these
names, a map of the same pairs just these pairs (`resolve_forms`).
-/

namespace ToolBindings

/-- The full name of a pair of server and tool. -/
def fullName (pair : String × String) : String := pair.1 ++ "." ++ pair.2

/-- The server and the tool. -/
def ResolvedTool.pair (t : ResolvedTool) : String × String := (t.server, t.tool)

namespace Allowlist

/-! ## What a value admits -/

/-- An allowlist as it is written: a list, or a map. -/
def IsListing (value : Json) : Prop := value.list?.isSome ∨ value.map?.isSome

/-- A list admits the tools whose full names are in it, a map those in the list of their server. An
empty one admits everything. -/
def Admits : Json → String × String → Prop
  | .list items, pair => items.isEmpty ∨ .text (fullName pair) ∈ items
  | .map fields, (server, tool) =>
    fields.isEmpty ∨ ∃ items, Entries.get? server fields = some (.list items) ∧ .text tool ∈ items
  | _, _ => False

theorem mem_textsIn {name : String} {items : List Json} :
    name ∈ textsIn items ↔ .text name ∈ items := by
  rw [textsIn, List.mem_filterMap]
  constructor
  · rintro ⟨item, hmem, htext⟩
    cases item with
    | text s =>
      cases htext
      exact hmem
    | _ => cases htext
  · exact fun hmem => ⟨_, hmem, rfl⟩

theorem admits_list {items : List Json} {pair : String × String} :
    Admits (.list items) pair ↔ items.isEmpty ∨ fullName pair ∈ textsIn items := by
  rw [Admits, mem_textsIn]

theorem admits_map {fields : Entries String Json} {pair : String × String} :
    Admits (.map fields) pair ↔ fields.isEmpty ∨
      ∃ items ∈ (Entries.get? pair.1 fields).bind Data.list?, pair.2 ∈ textsIn items := by
  rw [Admits]
  refine or_congr_right (exists_congr fun items => and_congr ?_ mem_textsIn.symm)
  rw [Option.mem_def]
  cases Entries.get? pair.1 fields with
  | none => simp
  | some value => cases value <;> simp [Data.list?]

instance (value : Json) : DecidablePred (Admits value) := fun _ =>
  match value with
  | .list _ => decidable_of_iff _ admits_list.symm
  | .map _ => decidable_of_iff _ admits_map.symm
  | .null | .bool _ | .int _ | .float _ | .text _ => .isFalse id

private theorem get?_lists (server : String) (fields : Entries String Json) :
    Entries.get? server (fields.map fun (server, value) => (server, value.list?.map textsIn))
      = (Entries.get? server fields).map fun value => value.list?.map textsIn := by
  induction fields with
  | nil => rfl
  | cons f fields ih =>
    rw [List.map_cons, Entries.get?_cons, Entries.get?_cons, ih]
    split <;> rfl

private theorem admits_ofList (items : List Json) (pair : String × String) :
    ∃ admitted, (ofJson (.list items)).admits pair.1 pair.2 = .ok admitted ∧
      (admitted = true ↔ Admits (.list items) pair) := by
  rw [ofJson, admits_list]
  by_cases hempty : items.isEmpty = true
  · rw [if_pos hempty]
    exact ⟨true, rfl, by simp [hempty]⟩
  · have hname : pair.1 ++ "." ++ pair.2 = fullName pair := rfl
    have hne : fullName pair ≠ "" := by simp [fullName]
    rw [if_neg hempty]
    refine ⟨_, rfl, ?_⟩
    rw [List.contains_iff_mem, List.mem_filter, hname]
    simp [hempty, hne]

private theorem admits_ofMap (fields : Entries String Json) (pair : String × String) :
    ∃ admitted, (ofJson (.map fields)).admits pair.1 pair.2 = .ok admitted ∧
      (admitted = true ↔ Admits (.map fields) pair) := by
  rw [ofJson, admits_map]
  by_cases hempty : fields.isEmpty = true
  · rw [if_pos hempty]
    exact ⟨true, rfl, by simp [hempty]⟩
  · rw [if_neg hempty, admits]
    dsimp only
    rw [get?_lists]
    cases Entries.get? pair.1 fields with
    | none => exact ⟨false, rfl, by simp [hempty]⟩
    | some value =>
      cases value with
      | list items => exact ⟨_, rfl, by simp [Data.list?, hempty]⟩
      | _ => exact ⟨false, rfl, by simp [Data.list?, hempty]⟩

/-- An allowlist that a list or a map makes answers what the value admits. -/
theorem admits_ofJson {value : Json} (h : IsListing value) (server tool : String) :
    (ofJson value).admits server tool = .ok (decide (Admits value (server, tool))) := by
  have hanswer : ∃ admitted, (ofJson value).admits server tool = .ok admitted ∧
      (admitted = true ↔ Admits value (server, tool)) := by
    cases value with
    | list items => exact admits_ofList items (server, tool)
    | map fields => exact admits_ofMap fields (server, tool)
    | _ => simp [IsListing, Data.list?, Data.map?] at h
  obtain ⟨admitted, hadmits, hiff⟩ := hanswer
  rw [hadmits, Except.ok.injEq, Bool.eq_iff_iff, hiff, decide_eq_true_iff]

end Allowlist

namespace Registry

variable {allowlist : Allowlist} {keep : String → String → Bool}

/-! ## Filtering -/

theorem resolveServers_of_admits
    (h : ∀ server tool, allowlist.admits server tool = .ok (keep server tool))
    (registry : Registry) (claimed : Name.Claimed) (servers : List Server) :
    registry.resolveServers allowlist claimed servers
      = (registry.resolveServers .everything claimed servers).map
          (·.filter fun t => keep t.server t.tool) := by
  induction servers generalizing claimed with
  | nil => rfl
  | cons server servers ih =>
    rw [resolveServers, resolveServers]
    cases registry.toolNames server with
    | error crash => rfl
    | ok names =>
      simp only [resolveTools_of_admits h, resolveTools_everything, bind, Except.bind, Except.map,
        ih]
      cases registry.resolveServers .everything (replay registry.namespaceName claimed
        (names.map fun tool => (server.slug, tool))).2 servers with
      | error crash => rfl
      | ok more => simp [pure, Except.pure]

/-- An allowlist that answers for every tool leaves out those that it does not admit. -/
theorem resolve_of_admits (h : ∀ server tool, allowlist.admits server tool = .ok (keep server tool))
    (registry : Registry) (wanted : List String) :
    registry.resolve wanted allowlist
      = (registry.resolve wanted .everything).map (·.filter fun t => keep t.server t.tool) := by
  rw [resolve, resolve]
  cases registry.project.settings.selectServers wanted with
  | error fault => rfl
  | ok servers =>
    simp only [bind, Except.bind, resolveServers_of_admits h]
    cases registry.resolveServers .everything .empty servers <;> rfl

theorem resolve_ofJson (registry : Registry) (wanted : List String) {value : Json}
    (h : Allowlist.IsListing value) :
    registry.resolve wanted (.ofJson value)
      = (registry.resolve wanted .everything).map
          (·.filter fun t => Allowlist.Admits value t.pair) :=
  resolve_of_admits (Allowlist.admits_ofJson h) registry wanted

/-- An allowlist leaves out the tools that it does not admit and changes nothing else: with it the
registry resolves the tools that it resolves without it, under the same classes and identifiers and
in the same order, less those that are not admitted. So does a narrower allowlist in place of a
wider one. -/
theorem resolve_restricted (registry : Registry) (wanted : List String) {value : Json}
    (h : Allowlist.IsListing value) :
    registry.resolve wanted (.ofJson value)
        = (registry.resolve wanted .everything).map
            (·.filter fun t => Allowlist.Admits value t.pair) ∧
      ∀ wider : Json, Allowlist.IsListing wider →
        (∀ pair, Allowlist.Admits value pair → Allowlist.Admits wider pair) →
          registry.resolve wanted (.ofJson value)
            = (registry.resolve wanted (.ofJson wider)).map
                (·.filter fun t => Allowlist.Admits value t.pair) := by
  refine ⟨resolve_ofJson registry wanted h, fun wider hwider hsub => ?_⟩
  rw [resolve_ofJson registry wanted h, resolve_ofJson registry wanted hwider]
  cases registry.resolve wanted .everything with
  | error fault => rfl
  | ok tools =>
    refine congrArg Except.ok ?_
    dsimp only
    rw [List.filter_filter]
    refine List.filter_congr fun t _ => ?_
    rw [eq_comm, Bool.and_eq_left_iff_imp, decide_eq_true_eq, decide_eq_true_eq]
    exact hsub t.pair

/-! ## Two servers with one full name -/

/-- Two servers whose tools have one full name: `eu.search` of the first, `search` of the second. -/
def dottedSettings : Settings where
  servers := [("crm", .map [(.text "manifest", .text "crm.json")]),
    ("crm.eu", .map [(.text "manifest", .text "eu.json")])]
  nodup := by decide
  retry := []
  generated := .default

/-- Their manifests. -/
def dottedFiles : FileTree :=
  let manifest (tool : String) :=
    Text.Utf8.encode ("\x7b\"tools\":[\x7b\"name\":\"" ++ tool ++ "\"\x7d]\x7d")
  ⟨[(["crm.json"], .file (manifest "eu.search")), (["eu.json"], .file (manifest "search"))], []⟩

/-- Their registry. -/
def dotted : Registry := ⟨⟨dottedSettings, []⟩, dottedFiles, "generated_tools"⟩

private theorem selectServers_dotted : dottedSettings.selectServers []
    = .ok [{ manifestServer with slug := "crm", manifest := some "crm.json" },
        { manifestServer with slug := "crm.eu", manifest := some "eu.json" }] := by
  have hsorted : Text.sortedBy (·.1) dottedSettings.servers = dottedSettings.servers :=
    sortBy_of_pairwise (by decide)
  rw [Settings.selectServers, Settings.allServers, hsorted]
  rfl

/-- The tool of the first server, as it is resolved. -/
def crmTool : ResolvedTool :=
  ⟨"crm", "eu.search", "CrmEuSearchTool", "generated_tools.Crm.CrmEuSearchTool"⟩

/-- The tool of the second server. Both tools have one base name, so its class has a suffix. -/
def euTool : ResolvedTool :=
  ⟨"crm.eu", "search", "CrmEuSearchTool347fa199", "generated_tools.CrmEu.CrmEuSearchTool347fa199"⟩

theorem resolve_dotted : dotted.resolve [] .everything = .ok [crmTool, euTool] := by
  have hselect : dotted.project.settings.selectServers [] = _ := selectServers_dotted
  have hresolved : (dotted.resolve [] .everything).toOption = some [crmTool, euTool] := by
    rw [resolve, hselect]
    decide +kernel
  cases htools : dotted.resolve [] .everything with
  | error fault =>
    rw [htools] at hresolved
    cases hresolved
  | ok tools =>
    rw [htools] at hresolved
    exact congrArg Except.ok (Option.some.inj hresolved)

/-- A map with a list for the second server and no list for another. -/
def euMap : Json := .map [("crm.eu", .list [.null, .text "search"]), ("n8n", .text "search")]

/-- The full name that both tools have, beside entries that name nothing. -/
def euNames : Json := .list [.int 5, .text "crm.eu.search", .text "n8n.other"]

/-- The second tool keeps the name of its class where the first one is left out. -/
theorem resolve_restricted_dotted :
    dotted.resolve [] (.ofJson euMap) = .ok [euTool] ∧
      dotted.resolve [] (.ofJson euMap)
        = (dotted.resolve [] (.ofJson euNames)).map
            (·.filter fun t => Allowlist.Admits euMap t.pair) := by
  have hsub : ∀ pair, Allowlist.Admits euMap pair → Allowlist.Admits euNames pair := by
    rintro ⟨server, tool⟩ hadmits
    rw [euMap, Allowlist.admits_map] at hadmits
    obtain hempty | ⟨items, hitems, htool⟩ := hadmits
    · cases hempty
    · rw [Entries.get?_cons, Entries.get?_cons] at hitems
      split at hitems
      · rename_i hserver
        cases hitems
        obtain rfl : "crm.eu" = server := hserver
        obtain rfl : "search" = tool := by simpa [Allowlist.textsIn, Data.text?] using htool
        decide
      · split at hitems <;> cases hitems
  obtain ⟨hresolve, hwider⟩ := resolve_restricted dotted [] (.inr rfl : Allowlist.IsListing euMap)
  refine ⟨?_, hwider euNames (.inl rfl) hsub⟩
  rw [hresolve, resolve_dotted]
  exact congrArg Except.ok (by decide)

end Registry

/-! ## Two forms of one allowlist -/

namespace Allowlist

variable {pairs : List (String × String)} {pair : String × String}

/-- The full names of pairs, in a list. -/
def flatForm (pairs : List (String × String)) : Json :=
  .list (pairs.map fun pair => .text (fullName pair))

/-- The tools of pairs by server, in a map. -/
def mapForm (pairs : List (String × String)) : Json :=
  .map ((pairs.map (·.1)).eraseDups.map fun server =>
    (server, .list ((pairs.filter (·.1 == server)).map fun pair => .text pair.2)))

theorem isListing_flatForm (pairs : List (String × String)) : IsListing (flatForm pairs) :=
  .inl rfl

theorem isListing_mapForm (pairs : List (String × String)) : IsListing (mapForm pairs) :=
  .inr rfl

theorem admits_flatForm (h : pairs ≠ []) :
    Admits (flatForm pairs) pair ↔ fullName pair ∈ pairs.map fullName := by
  rw [flatForm, admits_list]
  have htexts : textsIn (pairs.map fun pair => .text (fullName pair)) = pairs.map fullName := by
    rw [textsIn, List.filterMap_map]
    exact congrFun List.filterMap_eq_map pairs
  rw [htexts]
  simp [h]

private theorem get?_keyed (f : String → Json) (key : String) (keys : List String) :
    Entries.get? key (keys.map fun k => (k, f k)) = if key ∈ keys then some (f key) else none := by
  induction keys with
  | nil => rfl
  | cons k keys ih =>
    rw [List.map_cons, Entries.get?_cons, ih]
    by_cases hk : k = key
    · simp [hk]
    · simp [hk, Ne.symm hk]

theorem admits_mapForm (h : pairs ≠ []) : Admits (mapForm pairs) pair ↔ pair ∈ pairs := by
  obtain ⟨server, tool⟩ := pair
  have hsome : ((pairs.map (·.1)).eraseDups.map fun server =>
      (server, (.list ((pairs.filter (·.1 == server)).map fun pair => .text pair.2) : Json)))
        ≠ [] := by
    obtain ⟨first, hfirst⟩ := List.exists_mem_of_ne_nil pairs h
    have hmem : first.1 ∈ (pairs.map (·.1)).eraseDups :=
      List.mem_eraseDups.2 (List.mem_map_of_mem hfirst)
    exact List.ne_nil_of_mem (List.mem_map_of_mem hmem)
  rw [mapForm, Admits, get?_keyed, List.isEmpty_iff, or_iff_right hsome]
  constructor
  · rintro ⟨items, hitems, htool⟩
    split at hitems
    · cases hitems
      obtain ⟨other, hother, htext⟩ := List.mem_map.1 htool
      obtain ⟨hmem, hserver⟩ := List.mem_filter.1 hother
      cases htext
      rw [← eq_of_beq hserver]
      exact hmem
    · cases hitems
  · intro hmem
    have hserver : server ∈ (pairs.map (·.1)).eraseDups :=
      List.mem_eraseDups.2 (List.mem_map_of_mem hmem)
    rw [if_pos hserver]
    exact ⟨_, rfl, List.mem_map.2 ⟨_, List.mem_filter.2 ⟨hmem, beq_self_eq_true server⟩, rfl⟩⟩

/-- Without a dot in its server a full name is that of one pair. -/
theorem fullName_inj {p q : String × String} (hp : '.' ∉ p.1.toList) (hq : '.' ∉ q.1.toList)
    (h : fullName p = fullName q) : p = q := by
  -- the server is what stands before the first dot
  have hcut (r : String × String) (hr : '.' ∉ r.1.toList) :
      (fullName r).toList.takeWhile (· != '.') = r.1.toList ∧
        (fullName r).toList.dropWhile (· != '.') = '.' :: r.2.toList := by
    have htext : (fullName r).toList = r.1.toList ++ '.' :: r.2.toList := by simp [fullName]
    have hrun : ∀ c ∈ r.1.toList, (c != '.') = true := by
      intro c hc
      rw [bne_iff_ne]
      rintro rfl
      exact hr hc
    rw [htext]
    exact ⟨Text.takeWhile_run hrun rfl, Text.dropWhile_run hrun rfl⟩
  have hserver : p.1.toList = q.1.toList := by
    rw [← (hcut p hp).1, h, (hcut q hq).1]
  have htool : '.' :: p.2.toList = '.' :: q.2.toList := by
    rw [← (hcut p hp).2, h, (hcut q hq).2]
  exact Prod.ext (String.toList_inj.1 hserver) (String.toList_inj.1 (List.cons.inj htool).2)

end Allowlist

namespace Registry

/-- Pairs of server and tool as an allowlist, in both forms. A map admits just the resolved tools
that are among the pairs. A list of full names admits those that have the full name of one, so both
forms admit the same tools exactly if no other resolved tool has such a name, as is the case where
no slug has a dot in it. -/
theorem resolve_forms (registry : Registry) (wanted : List String) {pairs : List (String × String)}
    (h : pairs ≠ []) :
    registry.resolve wanted (.ofJson (Allowlist.mapForm pairs))
        = (registry.resolve wanted .everything).map (·.filter (·.pair ∈ pairs)) ∧
      registry.resolve wanted (.ofJson (Allowlist.flatForm pairs))
        = (registry.resolve wanted .everything).map
            (·.filter (fullName ·.pair ∈ pairs.map fullName)) ∧
      (registry.resolve wanted (.ofJson (Allowlist.flatForm pairs))
          = registry.resolve wanted (.ofJson (Allowlist.mapForm pairs)) ↔
        ∀ tools, registry.resolve wanted .everything = .ok tools →
          ∀ t ∈ tools, fullName t.pair ∈ pairs.map fullName → t.pair ∈ pairs) ∧
      ((∀ pair ∈ pairs, '.' ∉ pair.1.toList) →
        (∀ tools, registry.resolve wanted .everything = .ok tools →
          ∀ t ∈ tools, '.' ∉ t.server.toList) →
        registry.resolve wanted (.ofJson (Allowlist.flatForm pairs))
          = registry.resolve wanted (.ofJson (Allowlist.mapForm pairs))) := by
  have hmap : registry.resolve wanted (.ofJson (Allowlist.mapForm pairs))
      = (registry.resolve wanted .everything).map (·.filter (·.pair ∈ pairs)) := by
    rw [resolve_ofJson registry wanted (Allowlist.isListing_mapForm pairs)]
    simp only [Allowlist.admits_mapForm h]
  have hflat : registry.resolve wanted (.ofJson (Allowlist.flatForm pairs))
      = (registry.resolve wanted .everything).map
          (·.filter (fullName ·.pair ∈ pairs.map fullName)) := by
    rw [resolve_ofJson registry wanted (Allowlist.isListing_flatForm pairs)]
    simp only [Allowlist.admits_flatForm h]
  have hsame : registry.resolve wanted (.ofJson (Allowlist.flatForm pairs))
        = registry.resolve wanted (.ofJson (Allowlist.mapForm pairs)) ↔
      ∀ tools, registry.resolve wanted .everything = .ok tools →
        ∀ t ∈ tools, fullName t.pair ∈ pairs.map fullName → t.pair ∈ pairs := by
    rw [hflat, hmap]
    cases registry.resolve wanted .everything with
    | error fault => exact ⟨fun _ => nofun, fun _ => rfl⟩
    | ok tools =>
      -- one filter keeps what the other keeps exactly if their conditions agree on what is resolved
      simp only [Except.map, Except.ok.injEq, forall_eq']
      constructor
      · intro hfilter t ht hname
        have hkept : t ∈ tools.filter (·.pair ∈ pairs) :=
          hfilter ▸ List.mem_filter.2 ⟨ht, decide_eq_true hname⟩
        exact of_decide_eq_true (List.mem_filter.1 hkept).2
      · intro hnames
        refine List.filter_congr fun t ht => decide_eq_decide.2 ⟨hnames t ht, fun hpair => ?_⟩
        exact List.mem_map_of_mem hpair
  refine ⟨hmap, hflat, hsame, fun hpairs hservers => hsame.2 fun tools htools t ht hname => ?_⟩
  obtain ⟨pair, hpair, heq⟩ := List.mem_map.1 hname
  exact Allowlist.fullName_inj (hpairs pair hpair) (hservers tools htools t ht) heq ▸ hpair

theorem resolve_forms_dotted :
    let pairs := [("crm", "eu.search"), ("crm.eu", "search")]
    dotted.resolve [] (.ofJson (Allowlist.flatForm pairs)) = .ok [crmTool, euTool] ∧
      dotted.resolve [] (.ofJson (Allowlist.flatForm pairs))
        = dotted.resolve [] (.ofJson (Allowlist.mapForm pairs)) := by
  intro pairs
  obtain ⟨-, hflat, hsame, -⟩ := resolve_forms dotted [] (List.cons_ne_nil _ _ : pairs ≠ [])
  rw [resolve_dotted] at hflat hsame
  refine ⟨hflat.trans (congrArg Except.ok (by decide)), hsame.2 fun tools htools t ht _ => ?_⟩
  cases htools
  have hall : ∀ t ∈ [crmTool, euTool], t.pair ∈ pairs := by decide
  exact hall t ht

/-- The full name of a pair admits another tool than the pair, which a map does not admit. -/
theorem flatForm_ne_mapForm_dotted :
    let pairs := [("crm", "eu.search")]
    dotted.resolve [] (.ofJson (Allowlist.mapForm pairs)) = .ok [crmTool] ∧
      dotted.resolve [] (.ofJson (Allowlist.flatForm pairs)) = .ok [crmTool, euTool] ∧
      euTool.pair ∉ pairs := by
  intro pairs
  rw [resolve_ofJson _ _ (Allowlist.isListing_mapForm pairs),
    resolve_ofJson _ _ (Allowlist.isListing_flatForm pairs), resolve_dotted]
  exact ⟨congrArg Except.ok (by decide), congrArg Except.ok (by decide), by decide⟩

end Registry
end ToolBindings
