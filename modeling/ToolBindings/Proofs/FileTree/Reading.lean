import ToolBindings.FileTree.Basic

/-!
# Questions about paths

What a path leads to (`find?_eq_some`, `read_eq_ok`), and when a NUL in it is all that is wrong.
-/

namespace ToolBindings

@[simp] theorem Path.lastName_child (p : Path) (name : String) : (p.child name).lastName = name := by
  simp [Path.lastName, Path.child]

@[simp] theorem Path.parent_child (p : Path) (name : String) : (p.child name).parent = p := by
  simp [Path.parent, Path.child]

namespace FileTree

variable {t : FileTree} {p : Path}

theorem locate_eq_embeddedNul (followLast : Bool) :
    t.locate followLast p = .error .embeddedNul ↔ p.hasNul = true := by
  rw [locate]
  split
  · rename_i h
    simp [h]
  · rename_i h
    split
    · simp [h]
    · split <;> simp [h]

/-- A file cannot be read for a NUL in its path, or for an obstacle. -/
theorem read_eq_embeddedNul : t.read p = .error .embeddedNul ↔ p.hasNul = true := by
  rw [← locate_eq_embeddedNul (t := t) true, read]
  split
  · rename_i e he
    rw [he]
    simp
  · rename_i location hlocation
    rw [hlocation]
    split <;> simp

/-- What is found at a path stands where it leads to. -/
theorem find?_eq_some {entry : FileEntry} :
    t.find? p = .ok (some entry) ↔ ∃ l, t.locate true p = .ok l ∧ t.at? l = some entry := by
  rw [find?]
  cases t.locate true p with
  | ok l => simp
  | error e =>
    cases e with
    | obstacle what path target => cases what <;> simp
    | _ => simp

/-- What is read at a path is the file where it leads to. -/
theorem read_eq_ok {octets : List UInt8} :
    t.read p = .ok octets ↔ ∃ l, t.locate true p = .ok l ∧ t.at? l = some (.file octets) := by
  rw [read]
  cases t.locate true p with
  | error e => simp
  | ok l =>
    cases hentry : t.at? l with
    | none => simp [hentry]
    | some entry => cases entry <;> simp [hentry]

/-- A path leads to a file exactly if it can be read. -/
theorem isFile_eq_true : t.isFile p = .ok true ↔ ∃ octets, t.read p = .ok octets := by
  simp only [read_eq_ok, ← find?_eq_some]
  rw [isFile]
  cases t.find? p with
  | error e => simp [Except.map]
  | ok found => rcases found with _ | _ | _ | _ <;> simp [Except.map]

/-- A path leads to something. -/
theorem isPresent_eq_true : t.isPresent p = .ok true ↔
    ∃ l, t.locate true p = .ok l ∧ t.at? l ≠ none := by
  have hfound : t.isPresent p = .ok true ↔ ∃ entry, t.find? p = .ok (some entry) := by
    rw [isPresent]
    cases t.find? p with
    | error e => simp [Except.map]
    | ok found => cases found <;> simp [Except.map]
  simp only [hfound, find?_eq_some, Option.ne_none_iff_exists']
  constructor
  · rintro ⟨entry, l, hlocate, hl⟩
    exact ⟨l, hlocate, entry, hl⟩
  · rintro ⟨l, hlocate, entry, hl⟩
    exact ⟨entry, l, hlocate, hl⟩

/-- A path leads to a directory. -/
theorem isDirectory_eq_true {p : Path} :
    t.isDirectory p = .ok true ↔ ∃ l, t.locate true p = .ok l ∧ t.at? l = some .directory := by
  rw [← find?_eq_some, isDirectory]
  cases t.find? p with
  | error e => simp [Except.map]
  | ok found => rcases found with _ | _ | _ | _ <;> simp [Except.map]

end FileTree
end ToolBindings
