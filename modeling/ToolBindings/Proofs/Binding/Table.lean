import ToolBindings.Binding.Import

/-!
# Tables of classes

A table can be made of classes with different keys exactly if each of them names a server and a tool,
and then it holds them in their order (`ofClasses_eq_ok`). A class is found in the table, or else by
an import that adds it (`find?_eq_some`).
-/

namespace ToolBindings

/-- The class names a server and a tool. -/
def ToolClass.IsBinding (c : ToolClass) : Prop := c.server ≠ "" ∧ c.tool ≠ ""

namespace BindingTable

variable {table table' : BindingTable} {c : ToolClass} {classes : List ToolClass}

theorem register_ok (h : c.IsBinding) : table.register c = .ok (table.insert c) := by
  rw [register, if_neg]
  rintro (hserver | htool)
  · exact h.1 hserver
  · exact h.2 htool

theorem isBinding_of_register (h : table.register c = .ok table') : c.IsBinding := by
  rw [register] at h
  split at h
  · cases h
  · rename_i hnot
    exact not_or.1 hnot

/-- A class with a new key comes last. -/
theorem insert_classes (h : c.key ∉ table.classes.map ToolClass.key) :
    (table.insert c).classes = table.classes ++ [c] := by
  have hkept : table.classes.filter (·.key ≠ c.key) = table.classes := by
    rw [List.filter_eq_self]
    intro other hother
    rw [decide_eq_true_eq]
    intro hkey
    exact h (hkey ▸ List.mem_map_of_mem hother)
  show table.classes.filter (·.key ≠ c.key) ++ [c] = _
  rw [hkept]

/-- Classes with new keys that differ are added in their order. -/
theorem foldlM_register (table : BindingTable) {classes : List ToolClass}
    (hnodup : ((table.classes ++ classes).map ToolClass.key).Nodup)
    (h : ∀ c ∈ classes, c.IsBinding) :
    ∃ table', classes.foldlM register table = .ok table' ∧
      table'.classes = table.classes ++ classes := by
  induction classes generalizing table with
  | nil => exact ⟨table, rfl, (List.append_nil _).symm⟩
  | cons c classes ih =>
    have hfresh : c.key ∉ table.classes.map ToolClass.key := by
      rw [List.map_append, List.nodup_append] at hnodup
      exact fun hmem => hnodup.2.2 _ hmem _ List.mem_cons_self rfl
    have hinsert := insert_classes hfresh
    obtain ⟨table', hmore, hclasses⟩ := ih (table.insert c)
      (by rwa [hinsert, List.append_assoc]) fun d hd => h d (List.mem_cons_of_mem c hd)
    refine ⟨table', ?_, by rw [hclasses, hinsert, List.append_assoc, List.singleton_append]⟩
    rw [List.foldlM_cons, register_ok (h c List.mem_cons_self)]
    exact hmore

theorem isBinding_of_foldlM (h : classes.foldlM register table = .ok table') :
    ∀ c ∈ classes, c.IsBinding := by
  induction classes generalizing table with
  | nil => exact List.forall_mem_nil _
  | cons c classes ih =>
    rw [List.foldlM_cons] at h
    cases hfirst : table.register c with
    | error fault =>
      rw [hfirst] at h
      cases h
    | ok more =>
      rw [hfirst] at h
      exact List.forall_mem_cons.2 ⟨isBinding_of_register hfirst, ih h⟩

/-- A table of classes with different keys. -/
theorem ofClasses_eq_ok (hnodup : (classes.map ToolClass.key).Nodup) :
    ofClasses classes = .ok table ↔ (∀ c ∈ classes, c.IsBinding) ∧ table.classes = classes := by
  constructor
  · intro h
    have hbindings := isBinding_of_foldlM h
    obtain ⟨table', hmade, hclasses⟩ := foldlM_register empty hnodup hbindings
    have hsame : table = table' := Except.ok.inj (h.symm.trans hmade)
    exact ⟨hbindings, hsame ▸ hclasses⟩
  · rintro ⟨hbindings, hclasses⟩
    obtain ⟨table', hmade, hclasses'⟩ := foldlM_register empty hnodup hbindings
    have hsame : table' = table := by
      cases table
      cases table'
      simp_all [empty]
    exact hsame ▸ hmade

/-! ## Look-up -/

theorem key_of_get? {key : BindingKey} (h : table.get? key = some c) : c.key = key := by
  rw [get?] at h
  simpa using List.find?_some h

/-- A key of the table leads to its class. -/
theorem get?_of_mem {key : BindingKey} (h : key ∈ table.classes.map ToolClass.key) :
    ∃ c, table.get? key = some c ∧ c.key = key := by
  obtain ⟨c, hc, hkey⟩ := List.mem_map.1 h
  have hfound : (table.get? key).isSome := by
    rw [get?, List.find?_isSome]
    exact ⟨c, hc, decide_eq_true hkey⟩
  obtain ⟨found, hget⟩ := Option.isSome_iff_exists.1 hfound
  exact ⟨found, hget, key_of_get? hget⟩

/-- A class that is added is found under its key, and the other keys are left as they were. -/
theorem get?_insert (table : BindingTable) (c : ToolClass) (key : BindingKey) :
    (table.insert c).get? key = if c.key = key then some c else table.get? key := by
  have hclasses : (table.insert c).classes = table.classes.filter (·.key ≠ c.key) ++ [c] := rfl
  rw [get?, get?, hclasses, List.find?_append]
  by_cases hkey : c.key = key
  · have hgone : (table.classes.filter (·.key ≠ c.key)).find? (·.key = key) = none := by
      rw [List.find?_eq_none]
      intro d hd
      simpa [hkey] using (List.mem_filter.1 hd).2
    rw [hgone, if_pos hkey]
    simp [hkey]
  · have hkept : (table.classes.filter (·.key ≠ c.key)).find? (·.key = key)
        = table.classes.find? (·.key = key) := by
      rw [List.find?_filter]
      refine congrArg (List.find? · _) (funext fun d => ?_)
      grind
    rw [hkept, if_neg hkey]
    simp [hkey]

variable {importer : Importer} {key : BindingKey} {module : String}

/-- A class is found in the table, which is left as it is, or else in its module, by whose import it
is added. -/
theorem find?_eq_some : table.find? importer key module = .ok (some c, table') ↔
    (table.get? key = some c ∧ table' = table) ∨
      (table.get? key = none ∧ importer.load? module = .ok (some (.tool c)) ∧ c.key = key ∧
        c.IsBinding ∧ table' = table.insert c) := by
  constructor
  · intro h
    rw [find?] at h
    split at h
    · rename_i hget
      cases h
      exact .inl ⟨hget, rfl⟩
    · rename_i hget
      split at h
      · cases h
      · rename_i hload
        split at h
        · rename_i hkey
          split at h
          · rename_i hregister
            cases h
            have hbinding := isBinding_of_register hregister
            rw [register_ok hbinding] at hregister
            exact .inr ⟨hget, hload, hkey, hbinding, (Except.ok.inj hregister).symm⟩
          · cases h
        · cases h
      · cases h
  · rintro (⟨hget, rfl⟩ | ⟨hget, hload, hkey, hbinding, rfl⟩)
    · rw [find?, hget]
    · rw [find?, hget, hload]
      dsimp only
      rw [if_pos hkey, register_ok hbinding]

/-- A class that is found has the key that was looked up, and the other keys of the table are left
as they were. -/
theorem find?_ok (h : table.find? importer key module = .ok (some c, table')) :
    c.key = key ∧ ∀ other, other ≠ key → table'.get? other = table.get? other := by
  rcases find?_eq_some.1 h with ⟨hget, rfl⟩ | ⟨-, -, hkey, -, rfl⟩
  · exact ⟨key_of_get? hget, fun _ _ => rfl⟩
  · refine ⟨hkey, fun other hother => ?_⟩
    rw [get?_insert, if_neg fun heq => hother (heq.symm.trans hkey)]

/-- What is found for a key depends on what the table has under this key. -/
theorem find?_congr {other : BindingTable} (hget : other.get? key = table.get? key)
    (h : table.find? importer key module = .ok (some c, table')) :
    ∃ after, other.find? importer key module = .ok (some c, after) := by
  rcases find?_eq_some.1 h with ⟨hfound, -⟩ | ⟨hnone, hload, hkey, hbinding, -⟩
  · exact ⟨_, find?_eq_some.2 (.inl ⟨hget.trans hfound, rfl⟩)⟩
  · exact ⟨_, find?_eq_some.2 (.inr ⟨hget.trans hnone, hload, hkey, hbinding, rfl⟩)⟩

end BindingTable
end ToolBindings
