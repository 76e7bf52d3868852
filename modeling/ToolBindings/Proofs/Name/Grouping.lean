import Mathlib.Data.List.Induction
import ToolBindings.Proofs.Name.Suffixed

/-!
# Class names by base

Where suffixes are allowed, the class name of a tool depends only on the earlier tools of the same
base: the first of them gets the base, and a later one the mark and the number of those with its
mark between it and the first (`nameAfter`). What is claimed for other bases never plays a part.
Two consequences:

* `toolNames_stable`: the names within a base do not change with the tools of other bases;
* `named_filter_iff`: what it takes for selected tools to keep their names when only they are named.
-/

namespace ToolBindings.Name

/-- The base name of a tool, given by server and name. -/
def baseOf (p : String × String) : String := toolBase p.1 p.2

/-- What marks a tool, by a digest. -/
def markOf (hash : String → String) (p : String × String) : String := hash (p.1 ++ "|" ++ p.2)

/-- Claims class names for tools one after the other, where suffixes are allowed; `hash` makes the
marks. -/
def Claimed.toolNames (hash : String → String) (claimed : Claimed) :
    List (String × String) → Except Collision (List String)
  | [] => .ok []
  | p :: rest =>
    match claimed.allocate (baseOf p) (markOf hash p) true (.tool p.1 p.2 (baseOf p)) with
    | .error collision => .error collision
    | .ok (name, claimed) =>
      match toolNames hash claimed rest with
      | .error collision => .error collision
      | .ok names => .ok (name :: names)

/-- With the marks of this project the names are those that are given out to tools. -/
theorem Claimed.allocateTool_eq (claimed : Claimed) (p : String × String) (suffixes : Bool) :
    claimed.allocateTool p.1 p.2 suffixes
      = claimed.allocate (baseOf p) (markOf mark p) suffixes (.tool p.1 p.2 (baseOf p)) := rfl

section

variable (hash : String → String)

/-- The class name of a tool after earlier ones. -/
def nameAfter (earlier : List (String × String)) (p : String × String) : String :=
  match earlier.filter (baseOf · == baseOf p) with
  | [] => baseOf p
  | _ :: others =>
    suffixedName (baseOf p) (markOf hash p) (others.countP (markOf hash · == markOf hash p))

/-- Tools with their class names, after earlier tools. -/
def namedAfter (earlier : List (String × String)) :
    List (String × String) → List ((String × String) × String)
  | [] => []
  | p :: rest => (p, nameAfter hash earlier p) :: namedAfter (earlier ++ [p]) rest

theorem namedAfter_append (earlier ps qs : List (String × String)) :
    namedAfter hash earlier (ps ++ qs)
      = namedAfter hash earlier ps ++ namedAfter hash (earlier ++ ps) qs := by
  induction ps generalizing earlier with
  | nil => simp [namedAfter]
  | cons p ps ih => simp [namedAfter, ih]

@[simp] theorem map_fst_namedAfter (earlier ps : List (String × String)) :
    (namedAfter hash earlier ps).map (·.1) = ps := by
  induction ps generalizing earlier with
  | nil => rfl
  | cons p ps ih => rw [namedAfter, List.map_cons, ih]

/-- The class names of tools that are named from the start. -/
def names (ps : List (String × String)) : List String := (namedAfter hash [] ps).map (·.2)

theorem names_concat (ps : List (String × String)) (p : String × String) :
    names hash (ps ++ [p]) = names hash ps ++ [nameAfter hash ps p] := by
  rw [names, namedAfter_append, List.map_append]
  rfl

theorem length_names (ps : List (String × String)) : (names hash ps).length = ps.length := by
  have hlength := congrArg List.length (map_fst_namedAfter hash [] ps)
  rw [List.length_map] at hlength
  rw [names, List.length_map, hlength]

end

/-! ## What is claimed -/

section

variable {hash : String → String}

theorem nameAfter_of_none {earlier : List (String × String)} {p : String × String}
    (h : earlier.filter (baseOf · == baseOf p) = []) : nameAfter hash earlier p = baseOf p := by
  rw [nameAfter, h]

theorem nameAfter_of_cons {earlier others : List (String × String)} {p first : String × String}
    (h : earlier.filter (baseOf · == baseOf p) = first :: others) :
    nameAfter hash earlier p = suffixedName (baseOf p) (markOf hash p)
      (others.countP (markOf hash · == markOf hash p)) := by
  rw [nameAfter, h]

variable (hhash : ∀ value, IsMark (hash value))

include hhash

/-- The name of a tool of another base is neither a base nor a suffixed name of it. -/
theorem nameAfter_ne {p q : String × String} (h : baseOf q ≠ baseOf p)
    (earlier : List (String × String)) :
    nameAfter hash earlier q ≠ baseOf p ∧
      ∀ k, nameAfter hash earlier q ≠ suffixedName (baseOf p) (markOf hash p) k := by
  cases hearlier : earlier.filter (baseOf · == baseOf q) with
  | nil =>
    rw [nameAfter_of_none hearlier]
    exact ⟨h, fun k hname => suffixedName_ne_toolBase (hhash _) hname.symm⟩
  | cons first others =>
    rw [nameAfter_of_cons hearlier]
    refine ⟨suffixedName_ne_toolBase (hhash _), fun k hname => ?_⟩
    exact h (suffixedName_inj (hhash _) (hhash _) hname).1

/-- A base is claimed once a tool of this base has come. -/
theorem base_mem_names (earlier : List (String × String)) (p : String × String) :
    baseOf p ∈ names hash earlier ↔ earlier.filter (baseOf · == baseOf p) ≠ [] := by
  induction earlier using List.reverseRecOn with
  | nil => simp [names, namedAfter]
  | append_singleton earlier q ih =>
    rw [names_concat, List.mem_append, List.mem_singleton, ih, List.filter_append]
    by_cases hq : baseOf q = baseOf p
    · have hgroup : [q].filter (baseOf · == baseOf p) = [q] := by simp [hq]
      rw [hgroup]
      refine ⟨fun _ => by simp, fun _ => ?_⟩
      by_cases hnone : earlier.filter (baseOf · == baseOf p) = []
      · right
        rw [nameAfter_of_none (by rwa [hq]), hq]
      · exact Or.inl hnone
    · have hgroup : [q].filter (baseOf · == baseOf p) = [] := by simp [hq]
      rw [hgroup, List.append_nil]
      exact or_iff_left fun hname => (nameAfter_ne hhash hq earlier).1 hname.symm

/-- Of the suffixed names of a tool as many are claimed as tools of its base and its mark have come
after the first of the base. -/
theorem suffixedName_mem_names (earlier : List (String × String)) (p : String × String) (k : Nat) :
    suffixedName (baseOf p) (markOf hash p) k ∈ names hash earlier ↔
      k < (earlier.filter (baseOf · == baseOf p)).tail.countP
        (markOf hash · == markOf hash p) := by
  induction earlier using List.reverseRecOn with
  | nil => simp [names, namedAfter]
  | append_singleton earlier q ih =>
    rw [names_concat, List.mem_append, List.mem_singleton, ih, List.filter_append]
    by_cases hq : baseOf q = baseOf p
    · have hgroup : [q].filter (baseOf · == baseOf p) = [q] := by simp [hq]
      rw [hgroup]
      cases hearlier : earlier.filter (baseOf · == baseOf p) with
      | nil =>
        -- the first of the base is named by the base alone
        rw [nameAfter_of_none (by rwa [hq])]
        have hne : suffixedName (baseOf p) (markOf hash p) k ≠ baseOf q :=
          suffixedName_ne_toolBase (hhash _)
        simp [hne]
      | cons first others =>
        -- a later one takes the next suffixed name of its own mark
        rw [nameAfter_of_cons (by rwa [hq]), List.cons_append, List.tail_cons, List.tail_cons,
          List.countP_append]
        by_cases hmark : markOf hash q = markOf hash p
        · have hone : [q].countP (markOf hash · == markOf hash p) = 1 := by simp [hmark]
          rw [hone, hq, hmark]
          constructor
          · rintro (hlt | hname)
            · exact Nat.lt_succ_of_lt hlt
            · exact Nat.lt_succ_of_le (Nat.le_of_eq (suffixedName_inj (hhash _) (hhash _) hname).2.2)
          · intro hlt
            rcases Nat.lt_succ_iff_lt_or_eq.1 hlt with hlt | heq
            · exact Or.inl hlt
            · exact Or.inr (congrArg _ heq)
        · have hzero : [q].countP (markOf hash · == markOf hash p) = 0 := by simp [hmark]
          rw [hzero, Nat.add_zero]
          refine ⟨?_, Or.inl⟩
          rintro (hlt | hname)
          · exact hlt
          · exact absurd (suffixedName_inj (hhash _) (hhash _) hname).2.1.symm hmark
    · have hgroup : [q].filter (baseOf · == baseOf p) = [] := by simp [hq]
      rw [hgroup, List.append_nil]
      exact or_iff_left fun hname => (nameAfter_ne hhash hq earlier).2 k hname.symm

/-- The name that is given out after earlier tools, where nothing else is claimed. -/
theorem allocate_eq_nameAfter {claimed : Claimed} {earlier : List (String × String)}
    (h : ∀ name, name ∈ claimed ↔ name ∈ names hash earlier) (p : String × String)
    (collision : Collision) :
    claimed.allocate (baseOf p) (markOf hash p) true collision
      = .ok (nameAfter hash earlier p, claimed.claim (nameAfter hash earlier p)) := by
  unfold Claimed.allocate
  cases hgroup : earlier.filter (baseOf · == baseOf p) with
  | nil =>
    have hfree : baseOf p ∉ claimed := by
      rw [h, base_mem_names hhash, hgroup]
      simp
    rw [if_neg hfree, nameAfter_of_none hgroup]
  | cons first others =>
    have htaken : baseOf p ∈ claimed := by
      rw [h, base_mem_names hhash, hgroup]
      simp
    have hsuffixed : claimed.suffixed (baseOf p) (markOf hash p) = nameAfter hash earlier p := by
      rw [nameAfter_of_cons hgroup]
      apply Claimed.suffixed_eq
      intro k
      rw [h, suffixedName_mem_names hhash, hgroup, List.tail_cons]
    rw [if_pos htaken]
    simp only [if_true, hsuffixed]

omit hhash in
/-- The claimed names are those of the earlier tools, before and after the next one is named. -/
theorem mem_claim_nameAfter {claimed : Claimed} {earlier : List (String × String)}
    (h : ∀ name, name ∈ claimed ↔ name ∈ names hash earlier) (p : String × String) (name : String) :
    name ∈ claimed.claim (nameAfter hash earlier p) ↔ name ∈ names hash (earlier ++ [p]) := by
  rw [Claimed.mem_claim, names_concat, List.mem_append, List.mem_singleton, h, or_comm]

theorem toolNames_eq {claimed : Claimed} {earlier : List (String × String)}
    (h : ∀ name, name ∈ claimed ↔ name ∈ names hash earlier) (ps : List (String × String)) :
    claimed.toolNames hash ps = .ok ((namedAfter hash earlier ps).map (·.2)) := by
  induction ps generalizing claimed earlier with
  | nil => rfl
  | cons p ps ih =>
    rw [Claimed.toolNames, allocate_eq_nameAfter hhash h]
    simp only [ih (mem_claim_nameAfter h p)]
    rfl

/-- From the start every tool gets a name, and these are the names. -/
theorem toolNames_empty (ps : List (String × String)) :
    Claimed.empty.toolNames hash ps = .ok (names hash ps) :=
  toolNames_eq hhash (by simp [names, namedAfter]) ps

end

/-! ## Stability -/

/-- The names of the tools of a base, from a list of tools and the list of their names. -/
def namesOf (base : String) (tools : List (String × String)) (names : List String) : List String :=
  ((tools.zip names).filter (baseOf ·.1 == base)).map (·.2)

section

variable (hash : String → String) (base : String)

/-- Only the tools of the same base count. -/
theorem nameAfter_filter (earlier : List (String × String)) {p : String × String}
    (hp : baseOf p = base) :
    nameAfter hash (earlier.filter (baseOf · == base)) p = nameAfter hash earlier p := by
  have hgroup : (earlier.filter (baseOf · == base)).filter (baseOf · == baseOf p)
      = earlier.filter (baseOf · == baseOf p) := by
    rw [hp, List.filter_filter]
    simp
  rw [nameAfter, nameAfter, hgroup]

theorem namedAfter_filter (earlier ps : List (String × String)) :
    (namedAfter hash earlier ps).filter (baseOf ·.1 == base)
      = namedAfter hash (earlier.filter (baseOf · == base)) (ps.filter (baseOf · == base)) := by
  induction ps generalizing earlier with
  | nil => rfl
  | cons p ps ih =>
    rw [namedAfter]
    by_cases hp : baseOf p = base
    · have hlast : [p].filter (baseOf · == base) = [p] := by simp [hp]
      rw [List.filter_cons_of_pos (by simpa using hp), ih, List.filter_append, hlast,
        List.filter_cons_of_pos (by simpa using hp), namedAfter, nameAfter_filter hash base _ hp]
    · have hlast : [p].filter (baseOf · == base) = [] := by simp [hp]
      rw [List.filter_cons_of_neg (by simpa using hp), ih, List.filter_append, hlast,
        List.append_nil, List.filter_cons_of_neg (by simpa using hp)]

theorem namesOf_names (tools : List (String × String)) :
    namesOf base tools (names hash tools) = names hash (tools.filter (baseOf · == base)) := by
  have hzip : tools.zip (names hash tools) = namedAfter hash [] tools := by
    have hpairs := List.zip_map' (f := (·.1)) (g := (·.2)) (l := namedAfter hash [] tools)
    rw [map_fst_namedAfter] at hpairs
    rw [names, hpairs]
    exact List.map_id' _
  rw [namesOf, hzip, namedAfter_filter]
  rfl

end

/-- Of tools of one base the first gets the base, and no later one does. -/
private theorem names_of_base {hash : String → String} (hhash : ∀ value, IsMark (hash value))
    {base first : String} {rest : List String} {group : List (String × String)}
    (hgroup : ∀ p ∈ group, baseOf p = base) (h : names hash group = first :: rest) :
    first = base ∧ base ∉ rest := by
  induction group using List.reverseRecOn generalizing rest with
  | nil => cases h
  | append_singleton group p ih =>
    rw [names_concat] at h
    have hp : baseOf p = base := hgroup p (by simp)
    have hbefore : ∀ q ∈ group, baseOf q = base := fun q hq => hgroup q (by simp [hq])
    have hfilter : group.filter (baseOf · == baseOf p) = group := by
      rw [List.filter_eq_self, hp]
      simpa using fun server tool => hbefore (server, tool)
    cases group with
    | nil =>
      rw [nameAfter_of_none hfilter, hp] at h
      obtain ⟨rfl, rfl⟩ := List.cons.inj h
      exact ⟨rfl, List.not_mem_nil⟩
    | cons q group =>
      rw [nameAfter_of_cons hfilter] at h
      obtain ⟨rfl, rfl⟩ := List.cons.inj h
      obtain ⟨hfirst, hrest⟩ := ih hbefore rfl
      refine ⟨hfirst, fun hmem => ?_⟩
      rcases List.mem_append.1 hmem with hmem | hmem
      · exact hrest hmem
      · rw [List.mem_singleton, ← hp] at hmem
        exact suffixedName_ne_toolBase (hhash _) hmem.symm

/-- The names of tools do not change with tools of other bases: two lists of tools that agree on the
tools of a base give these the same names, whatever else they hold. The first tool of the base gets
the base itself, and no later one does. -/
theorem toolNames_stable {hash : String → String} (hhash : ∀ value, IsMark (hash value))
    {tools tools' : List (String × String)} {base : String}
    (h : tools.filter (baseOf · == base) = tools'.filter (baseOf · == base)) :
    ∃ given given' : List String,
      Claimed.empty.toolNames hash tools = .ok given ∧ given.length = tools.length ∧
      Claimed.empty.toolNames hash tools' = .ok given' ∧ given'.length = tools'.length ∧
      namesOf base tools given = namesOf base tools' given' ∧
      ∀ first rest, namesOf base tools given = first :: rest → first = base ∧ base ∉ rest := by
  refine ⟨_, _, toolNames_empty hhash tools, length_names hash tools, toolNames_empty hhash tools',
    length_names hash tools', ?_, ?_⟩
  · rw [namesOf_names, namesOf_names, h]
  · intro first rest hnames
    rw [namesOf_names] at hnames
    refine names_of_base hhash (fun p hp => ?_) hnames
    exact eq_of_beq (List.mem_filter.1 hp).2

theorem toolNames_stable_moved :
    [("a b", "x"), ("crm", "y"), ("a-b", "x")].filter (baseOf · == "ABXTool")
        = [("a b", "x"), ("a-b", "x"), ("n8n", "z")].filter (baseOf · == "ABXTool") ∧
      ∃ given given',
        Claimed.empty.toolNames mark [("a b", "x"), ("crm", "y"), ("a-b", "x")] = .ok given ∧
        Claimed.empty.toolNames mark [("a b", "x"), ("a-b", "x"), ("n8n", "z")] = .ok given' ∧
        namesOf "ABXTool" [("a b", "x"), ("crm", "y"), ("a-b", "x")] given
          = namesOf "ABXTool" [("a b", "x"), ("a-b", "x"), ("n8n", "z")] given' := by
  have hgroup : [("a b", "x"), ("crm", "y"), ("a-b", "x")].filter (baseOf · == "ABXTool")
      = [("a b", "x"), ("a-b", "x"), ("n8n", "z")].filter (baseOf · == "ABXTool") := by decide
  obtain ⟨given, given', hgiven, -, hgiven', -, hsame, -⟩ := toolNames_stable isMark_mark hgroup
  exact ⟨hgroup, given, given', hgiven, hgiven', hsame⟩

/-! ## Selections -/

section

variable (hash : String → String) (selected : String × String → Bool)

/-- What it takes for selected tools to be named as they are among all: where one of them is not the
first of its base, the first is selected, and no tool of its base and its mark that comes before it
is left out. -/
def Undisturbed (tools : List (String × String)) : Prop :=
  ∀ earlier p later, tools = earlier ++ p :: later → selected p = true →
    (∀ first ∈ (earlier.filter (baseOf · == baseOf p)).head?, selected first = true) ∧
      ∀ q ∈ earlier, baseOf q = baseOf p → markOf hash q = markOf hash p → selected q = true

variable {hash selected} in
/-- Where what is left out comes after all that is selected, nothing is disturbed. -/
theorem undisturbed_of_pairwise {tools : List (String × String)}
    (h : tools.Pairwise fun q p => selected p = true → selected q = true) :
    Undisturbed hash selected tools := by
  rintro earlier p later rfl hp
  have hearlier : ∀ q ∈ earlier, selected q = true := fun q hq =>
    (List.pairwise_append.1 h).2.2 q hq p List.mem_cons_self hp
  refine ⟨fun first hfirst => ?_, fun q hq _ _ => hearlier q hq⟩
  exact hearlier first (List.mem_of_mem_filter (List.mem_of_head? hfirst))

/-- Selecting tools and taking those of a base change places. -/
private theorem filter_selected_base (tools : List (String × String)) (base : String) :
    (tools.filter selected).filter (baseOf · == base)
      = (tools.filter (baseOf · == base)).filter selected := by
  rw [List.filter_filter, List.filter_filter]
  simp only [Bool.and_comm]

/-- Selected tools have the names they have among all exactly if each of them has. -/
private theorem filter_namedAfter_iff (earlier ps : List (String × String)) :
    (namedAfter hash earlier ps).filter (selected ·.1)
        = namedAfter hash (earlier.filter selected) (ps.filter selected) ↔
      ∀ before p after, ps = before ++ p :: after → selected p = true →
        nameAfter hash (earlier ++ before) p
          = nameAfter hash ((earlier ++ before).filter selected) p := by
  induction ps generalizing earlier with
  | nil => simp [namedAfter]
  | cons q ps ih =>
    -- the first tool has nothing before it but the earlier ones; for the others it is one of them
    have hrest : (∀ before p after, q :: ps = before ++ p :: after → selected p = true →
        nameAfter hash (earlier ++ before) p
          = nameAfter hash ((earlier ++ before).filter selected) p) ↔
        (selected q = true →
          nameAfter hash earlier q = nameAfter hash (earlier.filter selected) q) ∧
        ∀ before p after, ps = before ++ p :: after → selected p = true →
          nameAfter hash ((earlier ++ [q]) ++ before) p
            = nameAfter hash (((earlier ++ [q]) ++ before).filter selected) p := by
      constructor
      · intro h
        refine ⟨fun hq => ?_, fun before p after hps hp => ?_⟩
        · have hfirst := h [] q ps rfl hq
          rwa [List.append_nil] at hfirst
        · have hlater := h (q :: before) p after (by rw [hps, List.cons_append]) hp
          rwa [List.append_cons] at hlater
      · rintro ⟨hfirst, hlater⟩ before p after hps hp
        cases before with
        | nil =>
          obtain ⟨rfl, -⟩ := List.cons.inj hps
          rw [List.append_nil]
          exact hfirst hp
        | cons r before =>
          obtain ⟨rfl, htail⟩ := List.cons.inj hps
          rw [List.append_cons]
          exact hlater before p after htail hp
    rw [hrest, ← ih (earlier ++ [q]), namedAfter, List.filter_append]
    cases hq : selected q with
    | true => simp [hq, namedAfter]
    | false => simp [hq]

variable {hash}

variable {selected}

/-- Of the tools of a base whose first is selected, this one and the others that are selected stay. -/
private theorem filter_base_of_first {earlier others : List (String × String)}
    {first : String × String} {base : String}
    (h : earlier.filter (baseOf · == base) = first :: others) (hfirst : selected first = true) :
    (earlier.filter selected).filter (baseOf · == base) = first :: others.filter selected := by
  rw [filter_selected_base, h, List.filter_cons_of_pos hfirst]

/-- Among tools with a selected one there is a first that is selected and has its base. -/
private theorem exists_first_selected {tools : List (String × String)} {p : String × String}
    (hmem : p ∈ tools) (hp : selected p = true) :
    ∃ before r after, tools = before ++ r :: after ∧ selected r = true ∧ baseOf r = baseOf p ∧
      (before.filter (baseOf · == baseOf p)).filter selected = [] := by
  obtain ⟨r, hr⟩ : ∃ r, tools.find? (fun q => baseOf q == baseOf p && selected q) = some r := by
    rw [← Option.isSome_iff_exists, List.find?_isSome]
    exact ⟨p, hmem, by simp [hp]⟩
  obtain ⟨hmeets, before, after, hsplit, hbefore⟩ := List.find?_eq_some_iff_append.1 hr
  rw [Bool.and_eq_true, beq_iff_eq] at hmeets
  refine ⟨before, r, after, hsplit, hmeets.2, hmeets.1, ?_⟩
  rw [List.filter_filter, List.filter_eq_nil_iff]
  intro q hq hboth
  have hnot := hbefore q hq
  rw [Bool.and_comm, hboth] at hnot
  cases hnot

section

variable {tools : List (String × String)} (hhash : ∀ value, IsMark (hash value))
variable (hsame : ∀ before p after, tools = before ++ p :: after → selected p = true →
  nameAfter hash before p = nameAfter hash (before.filter selected) p)

include hhash hsame

/-- Where selected tools keep their names, the first tool of the base of each is selected. -/
private theorem first_selected_of_names {earlier later : List (String × String)}
    {p : String × String} (htools : tools = earlier ++ p :: later) (hp : selected p = true) :
    ∀ first ∈ (earlier.filter (baseOf · == baseOf p)).head?, selected first = true := by
  intro first hmem
  have hlast : p ∈ earlier ++ [p] := by simp
  obtain ⟨before, r, after, hsplit, hselected, hbase, hnone⟩ := exists_first_selected hlast hp
  have hname := hsame before r (after ++ later)
    (by rw [htools, List.append_cons, hsplit, List.append_assoc, List.cons_append]) hselected
  have hbare : nameAfter hash (before.filter selected) r = baseOf r :=
    nameAfter_of_none (by rw [filter_selected_base, hbase, hnone])
  rw [hbare] at hname
  -- named by its base alone it has no tool of this base before it, selected or not
  have hempty : before.filter (baseOf · == baseOf p) = [] := by
    rw [← hbase]
    cases hcons : before.filter (baseOf · == baseOf r) with
    | nil => rfl
    | cons q others =>
      rw [nameAfter_of_cons hcons] at hname
      exact absurd hname (suffixedName_ne_toolBase (hhash _))
  have hgroup := congrArg (List.filter (baseOf · == baseOf p)) hsplit
  have hself : [p].filter (baseOf · == baseOf p) = [p] := by simp
  rw [List.filter_append, List.filter_append, hempty, List.nil_append, hself,
    List.filter_cons_of_pos (by simpa using hbase)] at hgroup
  cases hcons : earlier.filter (baseOf · == baseOf p) with
  | nil =>
    rw [hcons] at hmem
    cases hmem
  | cons q others =>
    rw [hcons] at hmem hgroup
    cases hmem
    rw [(List.cons.inj hgroup).1]
    exact hselected

/-- Where selected tools keep their names, they are not disturbed. -/
private theorem undisturbed_of_names : Undisturbed hash selected tools := by
  intro earlier p later htools hp
  have hfirst := first_selected_of_names hhash hsame htools hp
  refine ⟨hfirst, fun q hq hbase hmark => ?_⟩
  have hname := hsame earlier p later htools hp
  have hq' : q ∈ earlier.filter (baseOf · == baseOf p) :=
    List.mem_filter.2 ⟨hq, by simpa using hbase⟩
  cases hcons : earlier.filter (baseOf · == baseOf p) with
  | nil =>
    rw [hcons] at hq'
    cases hq'
  | cons first others =>
    have hhead := hfirst first (by rw [hcons]; rfl)
    -- the counters are equal, so that none of the mark is left out
    rw [nameAfter_of_cons hcons, nameAfter_of_cons (filter_base_of_first hcons hhead)] at hname
    have hcount := (suffixedName_inj (hhash _) (hhash _) hname).2.2
    rw [List.countP_eq_countP_filter_add others _ selected, Nat.add_eq_left,
      List.countP_eq_zero] at hcount
    rw [hcons] at hq'
    rcases List.mem_cons.1 hq' with rfl | hothers
    · exact hhead
    · by_contra hnot
      refine hcount q (List.mem_filter.2 ⟨hothers, by simpa using hnot⟩) ?_
      simpa using hmark

end

/-- Selected tools that are not disturbed keep their names. -/
private theorem names_of_undisturbed {tools earlier later : List (String × String)}
    {p : String × String} (h : Undisturbed hash selected tools)
    (htools : tools = earlier ++ p :: later) (hp : selected p = true) :
    nameAfter hash earlier p = nameAfter hash (earlier.filter selected) p := by
  obtain ⟨hhead, hmarks⟩ := h earlier p later htools hp
  cases hcons : earlier.filter (baseOf · == baseOf p) with
  | nil =>
    rw [nameAfter_of_none hcons, nameAfter_of_none (by rw [filter_selected_base, hcons]; rfl)]
  | cons first others =>
    have hfirst := hhead first (by rw [hcons]; rfl)
    have hnone : (others.filter fun q => !selected q).countP (markOf hash · == markOf hash p)
        = 0 := by
      rw [List.countP_eq_zero]
      intro q hq hmark
      obtain ⟨hothers, hnot⟩ := List.mem_filter.1 hq
      have hgroup : q ∈ earlier.filter (baseOf · == baseOf p) :=
        hcons ▸ List.mem_cons_of_mem first hothers
      obtain ⟨hearlier, hbase⟩ := List.mem_filter.1 hgroup
      rw [hmarks q hearlier (eq_of_beq hbase) (eq_of_beq hmark)] at hnot
      cases hnot
    rw [nameAfter_of_cons hcons, nameAfter_of_cons (filter_base_of_first hcons hfirst),
      List.countP_eq_countP_filter_add others _ selected, hnone, Nat.add_zero]

variable (selected)

/-- Selected tools keep the names that they have among all tools exactly if what is left out does
not disturb them. -/
theorem named_filter_iff (hhash : ∀ value, IsMark (hash value)) (tools : List (String × String)) :
    (namedAfter hash [] tools).filter (selected ·.1)
        = namedAfter hash [] (tools.filter selected) ↔ Undisturbed hash selected tools := by
  have hiff := filter_namedAfter_iff hash selected [] tools
  simp only [List.filter_nil, List.nil_append] at hiff
  rw [hiff]
  exact ⟨undisturbed_of_names hhash, fun h _ _ _ => names_of_undisturbed h⟩

/-- Of two tools with one base the second has another name where the first is left out. -/
example : ¬Undisturbed mark (["a-b"].contains ·.1) [("a b", "x"), ("a-b", "x")] := by
  intro h
  have hfirst := (h [("a b", "x")] ("a-b", "x") [] rfl rfl).1 ("a b", "x") (by decide)
  revert hfirst
  decide

end

end ToolBindings.Name
