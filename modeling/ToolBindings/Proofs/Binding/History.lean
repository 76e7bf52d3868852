import Mathlib.Data.List.Induction
import Mathlib.Data.List.Nodup
import ToolBindings.Proofs.Binding.Table
import ToolBindings.Proofs.Data.Sorted

/-!
# Tables over runs of calls

Whatever calls a table has seen, it answers from the classes that they registered: under each key it
holds the one that was registered last, and it lists these in the order of their keys
(`Agrees.represents`). What a look-up finds is found by every later one until another class takes its
key (`keeps`), and classes with different keys make the same table in any order
(`sameOutcome_ofClasses`).
-/

namespace ToolBindings

/-! ## The order of keys -/

namespace BindingKey

/-- The tool and the class name, by which the keys of one server are ordered. -/
def inner (key : BindingKey) : String × String := (key.tool, key.className)

theorem le_iff {a b : BindingKey} : a.le b = true ↔
    a.server < b.server ∨ a.server = b.server ∧ Text.lePair a.inner b.inner = true := by
  simp [le, inner]

theorem le_trans {a b c : BindingKey} (hab : a.le b = true) (hbc : b.le c = true) :
    a.le c = true := by
  rw [le_iff] at *
  have hinner := @Text.lePair_trans a.inner b.inner c.inner
  grind

theorem le_total (a b : BindingKey) : (a.le b || b.le a) = true := by
  rw [Bool.or_eq_true, le_iff, le_iff]
  have hinner := Text.lePair_total a.inner b.inner
  rw [Bool.or_eq_true] at hinner
  grind

theorem le_antisymm {a b : BindingKey} (hab : a.le b = true) (hba : b.le a = true) : a = b := by
  rw [le_iff] at hab hba
  have hinner := @Text.lePair_antisymm a.inner b.inner
  obtain ⟨server, tool, className⟩ := a
  obtain ⟨server', tool', className'⟩ := b
  simp only [inner, Prod.mk.injEq] at *
  grind

/-- Keys of one tool are ordered by their class names. -/
theorem le_className {a b : BindingKey} (h : a.le b = true) (hserver : a.server = b.server)
    (htool : a.tool = b.tool) : a.className ≤ b.className := by
  rw [le_iff, Text.lePair_iff] at h
  simp only [inner, hserver, htool] at h
  simpa using h

end BindingKey

namespace BindingTable

variable {table table' : BindingTable} {c : ToolClass} {key : BindingKey}

/-! ## Listing -/

theorem perm_toList (table : BindingTable) : table.toList.Perm table.classes :=
  List.mergeSort_perm _ _

/-- Classes are listed in ascending order, no key twice. -/
theorem ascending_toList (table : BindingTable) :
    table.toList.Pairwise fun a b => a.key.le b.key = true ∧ a.key ≠ b.key := by
  have htrans (a b c : ToolClass) (hab : a.key.le b.key = true) (hbc : b.key.le c.key = true) :
      a.key.le c.key = true := BindingKey.le_trans hab hbc
  have htotal (a b : ToolClass) : (a.key.le b.key || b.key.le a.key) = true :=
    BindingKey.le_total a.key b.key
  have hle : table.toList.Pairwise fun a b => a.key.le b.key = true :=
    List.pairwise_mergeSort htrans htotal table.classes
  have hne : table.toList.Pairwise fun a b => a.key ≠ b.key := by
    rw [← List.pairwise_map (R := fun a b => a ≠ b)]
    exact ((table.perm_toList.map _).nodup_iff).2 table.nodup
  exact hle.and hne

/-- What is listed is what is found under its key. -/
theorem mem_toList : c ∈ table.toList ↔ table.get? c.key = some c := by
  rw [table.perm_toList.mem_iff]
  constructor
  · intro hc
    obtain ⟨found, hget, hkey⟩ := get?_of_mem (List.mem_map_of_mem (f := ToolClass.key) hc)
    have hfound : found ∈ table.classes := List.mem_of_find?_eq_some hget
    rw [hget, List.inj_on_of_nodup_map table.nodup hfound hc hkey]
  · intro hget
    exact List.mem_of_find?_eq_some hget

/-- Without a class name the class of a tool with the least one is found. -/
theorem first?_eq_some {server tool : String} : table.first? server tool = some c ↔
    (table.get? c.key = some c ∧ c.server = server ∧ c.tool = tool) ∧
      ∀ d, table.get? d.key = some d → d.server = server → d.tool = tool →
        c.className ≤ d.className := by
  rw [first?, List.find?_eq_some_iff_append]
  constructor
  · rintro ⟨htool, front, back, hlist, hfront⟩
    have hascending := table.ascending_toList
    rw [hlist, List.pairwise_append, List.pairwise_cons] at hascending
    rw [decide_eq_true_eq] at htool
    refine ⟨⟨mem_toList.1 (by simp [hlist]), htool⟩, ?_⟩
    intro d hd hserver htool'
    -- no class of the tool comes before, and those behind have greater names
    have hmem := mem_toList.2 hd
    rw [hlist, List.mem_append, List.mem_cons] at hmem
    rcases hmem with hin | rfl | hin
    · have hother := hfront d hin
      simp [hserver, htool'] at hother
    · exact String.le_refl _
    · exact BindingKey.le_className (hascending.2.1.1 d hin).1 (htool.1.trans hserver.symm)
        (htool.2.trans htool'.symm)
  · rintro ⟨⟨hget, htool⟩, hleast⟩
    obtain ⟨front, back, hlist⟩ := List.append_of_mem (mem_toList.2 hget)
    refine ⟨decide_eq_true htool, front, back, hlist, ?_⟩
    intro d hd
    have hascending := table.ascending_toList
    rw [hlist, List.pairwise_append] at hascending
    obtain ⟨hle, hne⟩ := hascending.2.2 d hd c List.mem_cons_self
    simp only [Bool.not_eq_true', decide_eq_false_iff_not]
    rintro ⟨hserver, htool'⟩
    have hname := hleast d (mem_toList.1 (by simp [hlist, hd])) hserver htool'
    have hname' := BindingKey.le_className hle (hserver.trans htool.1.symm)
      (htool'.trans htool.2.symm)
    apply hne
    simp only [ToolClass.key, BindingKey.mk.injEq]
    exact ⟨hserver.trans htool.1.symm, htool'.trans htool.2.symm, String.le_antisymm hname' hname⟩

theorem first?_eq_none {server tool : String} : table.first? server tool = none ↔
    ∀ c, table.get? c.key = some c → ¬(c.server = server ∧ c.tool = tool) := by
  rw [first?, List.find?_eq_none]
  simp only [mem_toList, decide_eq_true_eq]

/-- A look-up that finds nothing leaves the table as it was. -/
theorem find?_eq_none {importer : Importer} {module : String}
    (h : table.find? importer key module = .ok (none, table')) :
    table.get? key = none ∧ table' = table := by
  unfold find? at h
  split at h
  · cases h
  · rename_i hget
    refine ⟨hget, ?_⟩
    split at h
    · cases h
    · split at h
      · split at h
        · cases h
        · cases h
      · cases h
        rfl
    · cases h
      rfl

end BindingTable

/-! ## Calls -/

/-- A call that may add to a table. -/
inductive TableCall where
  | register (c : ToolClass)
  | find (importer : Importer) (key : BindingKey) (module : String)

namespace TableCall

/-- What a call answers, and the table that it leaves. -/
def perform (table : BindingTable) : TableCall → Except Fault (Option ToolClass × BindingTable)
  | .register c =>
    match table.register c with
    | .ok table => .ok (some c, table)
    | .error cause => .error (.ofConfiguration cause)
  | .find importer key module => table.find? importer key module

/-- The table after a call; a call that fails leaves it as it was. -/
def after (table : BindingTable) (call : TableCall) : BindingTable :=
  match call.perform table with
  | .ok (_, table) => table
  | .error _ => table

/-- A call that looks up what the table has. -/
def isHit (table : BindingTable) : TableCall → Bool
  | .register _ => false
  | .find _ key _ => (table.get? key).isSome

/-- The class that a call registers: the one that is given, or the one that is found, if the table
did not have it. -/
def registered? (table : BindingTable) (call : TableCall) : Option ToolClass :=
  match call.perform table with
  | .ok (answer, _) => if call.isHit table then none else answer
  | .error _ => none

variable {table : BindingTable} {c d : ToolClass}

theorem perform_register_eq_ok {outcome : Option ToolClass × BindingTable} :
    (register c).perform table = .ok outcome ↔ c.IsBinding ∧ outcome = (some c, table.insert c) := by
  unfold perform
  by_cases hbinding : c.IsBinding
  · simp [BindingTable.register_ok hbinding, hbinding, eq_comm]
  · have hrefused : table.register c = .error (.notABinding c.className) := by
      unfold ToolClass.IsBinding at hbinding
      unfold BindingTable.register
      rw [if_pos (by tauto)]
    simp [hrefused, hbinding]

/-- What a call registers is what it adds to the table. -/
theorem after_eq (table : BindingTable) (call : TableCall) : call.after table =
    match call.registered? table with
    | some c => table.insert c
    | none => table := by
  unfold after registered?
  cases hperform : call.perform table with
  | error fault => rfl
  | ok outcome =>
    obtain ⟨answer, table'⟩ := outcome
    cases call with
    | register c =>
      obtain ⟨-, houtcome⟩ := perform_register_eq_ok.1 hperform
      cases houtcome
      rfl
    | find importer key module =>
      cases answer with
      | none =>
        obtain ⟨hget, rfl⟩ := BindingTable.find?_eq_none hperform
        simp
      | some c =>
        rcases BindingTable.find?_eq_some.1 hperform with ⟨hget, rfl⟩ | ⟨hget, -, -, -, rfl⟩
        · simp [isHit, hget]
        · simp [isHit, hget]

/-- A call registers the class that it is given, or one that the table does not have. -/
theorem eq_or_get?_eq_none (h : registered? table call = some d) :
    call = register d ∨ table.get? d.key = none := by
  unfold registered? at h
  cases hperform : call.perform table with
  | error fault => simp [hperform] at h
  | ok outcome =>
    obtain ⟨answer, table'⟩ := outcome
    simp only [hperform] at h
    split at h
    · cases h
    · rename_i hmiss
      subst h
      cases call with
      | register c =>
        obtain ⟨-, houtcome⟩ := perform_register_eq_ok.1 hperform
        cases houtcome
        exact Or.inl rfl
      | find importer key module =>
        right
        have hkey := (BindingTable.find?_ok hperform).1
        simpa [isHit, ← hkey] using hmiss

end TableCall

/-- A table, and the classes that calls have registered in it, the latest first. -/
structure History where
  table : BindingTable
  registered : List ToolClass

namespace History

/-- No calls. -/
def start : History := ⟨.empty, []⟩

/-- One more call. -/
def step (h : History) (call : TableCall) : History :=
  ⟨call.after h.table, (call.registered? h.table).toList ++ h.registered⟩

/-- More calls, one after the other. -/
def more (h : History) (calls : List TableCall) : History := calls.foldl step h

/-- The history of calls. -/
def ofCalls (calls : List TableCall) : History := start.more calls

/-- The class that was registered last under a key. -/
def latest? (h : History) (key : BindingKey) : Option ToolClass :=
  h.registered.find? (·.key = key)

variable {h : History} {call : TableCall} {calls : List TableCall}

/-- Under each key the table holds the class that was registered last. -/
def Agrees (h : History) : Prop := ∀ key, h.table.get? key = h.latest? key

theorem agrees_step (hagrees : h.Agrees) : (h.step call).Agrees := by
  intro key
  have hbefore := hagrees key
  unfold latest? at hbefore ⊢
  unfold step
  simp only
  rw [TableCall.after_eq]
  cases call.registered? h.table with
  | none => exact hbefore
  | some c =>
    simp only [Option.toList_some, List.singleton_append, List.find?_cons]
    rw [BindingTable.get?_insert]
    by_cases hkey : c.key = key
    · simp [hkey]
    · simp [hkey, hbefore]

theorem agrees_more (hagrees : h.Agrees) : (h.more calls).Agrees := by
  induction calls generalizing h with
  | nil => exact hagrees
  | cons call calls ih => exact ih (agrees_step hagrees)

/-- The table answers as a finite map from keys to the classes that were registered last. -/
structure Represents (h : History) : Prop where
  get : ∀ key, h.table.get? key = h.latest? key
  least : ∀ server tool c, h.table.first? server tool = some c ↔
    (h.latest? c.key = some c ∧ c.server = server ∧ c.tool = tool) ∧
      ∀ d, h.latest? d.key = some d → d.server = server → d.tool = tool → c.className ≤ d.className
  absent : ∀ server tool, h.table.first? server tool = none ↔
    ∀ c, h.latest? c.key = some c → ¬(c.server = server ∧ c.tool = tool)
  ascending : h.table.toList.Pairwise fun a b => a.key.le b.key = true ∧ a.key ≠ b.key
  listed : ∀ c, c ∈ h.table.toList ↔ h.latest? c.key = some c
  size : h.table.size = h.table.toList.length

theorem Agrees.represents (hagrees : h.Agrees) : h.Represents where
  get := hagrees
  least server tool c := by
    simp only [BindingTable.first?_eq_some, hagrees _]
  absent server tool := by
    simp only [BindingTable.first?_eq_none, hagrees _]
  ascending := h.table.ascending_toList
  listed c := by
    rw [BindingTable.mem_toList, hagrees]
  size := h.table.perm_toList.length_eq.symm

/-- A class stays under its key while no other class is registered under it. -/
theorem get?_more {c : ToolClass} (hget : h.table.get? c.key = some c)
    (hcalls : ∀ d, TableCall.register d ∈ calls → d.key ≠ c.key) :
    (h.more calls).table.get? c.key = some c := by
  induction calls generalizing h with
  | nil => exact hget
  | cons call calls ih =>
    refine ih ?_ fun d hd => hcalls d (List.mem_cons_of_mem call hd)
    show (call.after h.table).get? c.key = some c
    rw [TableCall.after_eq]
    cases hregistered : call.registered? h.table with
    | none => exact hget
    | some d =>
      -- a look-up registers only what the table does not have
      have hother : d.key ≠ c.key := by
        rcases TableCall.eq_or_get?_eq_none hregistered with rfl | hnone
        · exact hcalls d List.mem_cons_self
        · intro hkey
          rw [hkey, hget] at hnone
          cases hnone
      show (h.table.insert d).get? c.key = some c
      rw [BindingTable.get?_insert, if_neg hother, hget]

/-- Look-ups answer for what they name, and what they find stays. -/
structure Keeps (h : History) : Prop where
  named : ∀ importer key module c table',
    h.table.find? importer key module = .ok (some c, table') →
      c.server = key.server ∧ c.tool = key.tool ∧ c.className = key.className
  found : ∀ importer key module c table',
    h.table.find? importer key module = .ok (some c, table') →
      ∀ later, (∀ d, TableCall.register d ∈ later → d.key ≠ key) →
        let after := ((h.step (.find importer key module)).more later).table
        after.get? key = some c ∧
          ∀ importer module, after.find? importer key module = .ok (some c, after)
  missed : ∀ importer key module table',
    h.table.find? importer key module = .ok (none, table') →
      (h.step (.find importer key module)).table = h.table
  failed : ∀ call fault, TableCall.perform h.table call = .error fault → h.step call = h

theorem keeps (h : History) : h.Keeps where
  named importer key module c table' hfind := by
    have hkey := (BindingTable.find?_ok hfind).1
    subst hkey
    exact ⟨rfl, rfl, rfl⟩
  found importer key module c table' hfind later hlater := by
    have hkey := (BindingTable.find?_ok hfind).1
    subst hkey
    -- once found the class is in the table, and no later call takes its place
    have hnow : (h.step (.find importer c.key module)).table.get? c.key = some c := by
      have hafter : (h.step (.find importer c.key module)).table = table' := by
        show (TableCall.find importer c.key module).after h.table = table'
        unfold TableCall.after TableCall.perform
        simp only [hfind]
      rw [hafter]
      rcases BindingTable.find?_eq_some.1 hfind with ⟨hget, rfl⟩ | ⟨-, -, -, -, rfl⟩
      · exact hget
      · rw [BindingTable.get?_insert, if_pos rfl]
    have hlast := get?_more hnow hlater
    refine ⟨hlast, ?_⟩
    intro importer' module'
    exact BindingTable.find?_eq_some.2 (Or.inl ⟨hlast, rfl⟩)
  missed importer key module table' hfind := by
    show (TableCall.find importer key module).after h.table = h.table
    unfold TableCall.after TableCall.perform
    simp only [hfind]
    exact (BindingTable.find?_eq_none hfind).2
  failed call fault hfailed := by
    unfold step TableCall.after TableCall.registered?
    simp [hfailed]

end History

/-! ## Tables of classes -/

namespace BindingTable

/-- No question tells the tables apart. -/
structure Same (table table' : BindingTable) : Prop where
  get : ∀ key, table.get? key = table'.get? key
  first : ∀ server tool, table.first? server tool = table'.first? server tool
  toList : table.toList = table'.toList
  size : table.size = table'.size

theorem same_of_perm {table table' : BindingTable} (h : table.classes.Perm table'.classes) :
    table.Same table' := by
  have hlist : table.toList = table'.toList := by
    have hperm : table.toList.Perm table'.toList :=
      (table.perm_toList.trans h).trans table'.perm_toList.symm
    refine hperm.eq_of_pairwise ?_ table.ascending_toList table'.ascending_toList
    rintro a b - - ⟨hab, hne⟩ ⟨hba, -⟩
    exact absurd (BindingKey.le_antisymm hab hba) hne
  refine ⟨fun key => ?_, ?_, hlist, h.length_eq⟩
  · apply Option.ext
    intro c
    have hmem : c ∈ table.toList ↔ c ∈ table'.toList := by rw [hlist]
    rw [mem_toList, mem_toList] at hmem
    constructor
    · intro hget
      rw [key_of_get? hget] at hmem
      exact hmem.1 hget
    · intro hget
      rw [key_of_get? hget] at hmem
      exact hmem.2 hget
  · intro server tool
    rw [first?, first?, hlist]

/-- Tables that are the same, or none. -/
inductive SameOutcome :
    Except ConfigurationFault BindingTable → Except ConfigurationFault BindingTable → Prop
  | tables {table table' : BindingTable} (h : table.Same table') :
      SameOutcome (.ok table) (.ok table')
  | faults (fault fault' : ConfigurationFault) : SameOutcome (.error fault) (.error fault')

/-- Classes with different keys make the same table in any order. -/
theorem sameOutcome_ofClasses {classes classes' : List ToolClass}
    (hnodup : (classes.map ToolClass.key).Nodup) (hperm : classes.Perm classes') :
    SameOutcome (ofClasses classes) (ofClasses classes') := by
  have hnodup' : (classes'.map ToolClass.key).Nodup := (hperm.map _).nodup_iff.1 hnodup
  by_cases hbindings : ∀ c ∈ classes, c.IsBinding
  · have hbindings' : ∀ c ∈ classes', c.IsBinding := fun c hc => hbindings c (hperm.mem_iff.2 hc)
    have hmade : ofClasses classes = .ok ⟨classes, hnodup⟩ :=
      (ofClasses_eq_ok hnodup).2 ⟨hbindings, rfl⟩
    have hmade' : ofClasses classes' = .ok ⟨classes', hnodup'⟩ :=
      (ofClasses_eq_ok hnodup').2 ⟨hbindings', rfl⟩
    rw [hmade, hmade']
    exact SameOutcome.tables (same_of_perm hperm)
  · have hbindings' : ¬∀ c ∈ classes', c.IsBinding := fun h =>
      hbindings fun c hc => h c (hperm.mem_iff.1 hc)
    cases hmade : ofClasses classes with
    | ok table => exact absurd ((ofClasses_eq_ok hnodup).1 hmade).1 hbindings
    | error fault =>
      cases hmade' : ofClasses classes' with
      | ok table => exact absurd ((ofClasses_eq_ok hnodup').1 hmade').1 hbindings'
      | error fault' => exact SameOutcome.faults fault fault'

end BindingTable

/-! ## Main result -/

/-- A table is a finite map over runs of calls: after any calls it answers from the classes that were
registered last, look-ups keep what they find and leave the table alone where they find nothing, and
tables of classes with different keys do not depend on their order. -/
theorem History.finiteMap_ofCalls (calls : List TableCall) :
    (ofCalls calls).Represents ∧ (ofCalls calls).Keeps ∧
      ∀ classes classes' : List ToolClass, (classes.map ToolClass.key).Nodup →
        classes.Perm classes' →
          BindingTable.SameOutcome (BindingTable.ofClasses classes)
            (BindingTable.ofClasses classes') := by
  have hstart : start.Agrees := fun _ => rfl
  refine ⟨(agrees_more hstart).represents, keeps _, ?_⟩
  intro classes classes' hnodup hperm
  exact BindingTable.sameOutcome_ofClasses hnodup hperm

end ToolBindings
