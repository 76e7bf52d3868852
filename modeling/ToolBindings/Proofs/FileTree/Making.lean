import ToolBindings.FileTree.Change
import ToolBindings.Proofs.Data.Entries
import ToolBindings.Proofs.FileTree.Reading
import ToolBindings.Proofs.FileTree.Walking

/-!
# What making directories leaves

However far the directories of a path are made, the tree differs from the one before only by
directories that were missing at the path or above it (`madeAbove_makeDirectories`), and paths lead to
where they led (`OnlyDirectories.locate_eq_ok`).
-/

namespace ToolBindings

/-- A path is another one or leads to it from above. -/
def Path.Above (q p : Path) : Prop := q.anchor = p.anchor ∧ q.names <+: p.names

theorem Path.Above.of_parent {p q : Path} (h : q.Above p.parent) : q.Above p :=
  ⟨h.1, h.2.trans (List.dropLast_prefix p.names)⟩

namespace FileTree

variable {t t' t'' : FileTree} {l k : Location} {p : Path}

/-! ## Single places -/

theorem at?_setEntry (hl : l ≠ []) (entry : FileEntry) :
    (t.setEntry l entry).at? k = if l = k then some entry else t.at? k := by
  rw [at?, at?, setEntry]
  by_cases hk : k = []
  · have hne : l ≠ k := fun h => hl (h.trans hk)
    rw [if_pos hk, if_neg hne, if_pos hk]
  · rw [if_neg hk, if_neg hk]
    exact Entries.get?_put l k entry t.entries

theorem at?_eraseEntry (hl : l ≠ []) :
    (t.eraseEntry l).at? k = if l = k then none else t.at? k := by
  rw [at?, at?, eraseEntry]
  by_cases hk : k = []
  · have hne : l ≠ k := fun h => hl (h.trans hk)
    rw [if_pos hk, if_neg hne, if_pos hk]
  · rw [if_neg hk, if_neg hk]
    exact Entries.get?_erase l k t.entries

/-- Only the root is always a directory. -/
theorem ne_nil_of_at? (h : t.at? l ≠ some .directory) : l ≠ [] := by
  rintro rfl
  exact h rfl

/-! ## Where paths lead -/

/-- The place that a path starts from. -/
def start (t : FileTree) (p : Path) : Location := if p.anchor = "" then t.here else []

theorem locate_eq_ok {followLast : Bool} :
    t.locate followLast p = .ok l ↔ p.hasNul = false ∧ p.toText.utf8ByteSize ≤ longestPath ∧
      t.walk followLast mostLinks (t.start p) p.names = .ok l := by
  rw [locate, start]
  by_cases hnul : p.hasNul = true
  · simp [hnul]
  · by_cases hlong : longestPath < p.toText.utf8ByteSize
    · have hnot : ¬p.toText.utf8ByteSize ≤ longestPath := Nat.not_le_of_lt hlong
      simp [hnul, hlong, hnot]
    · rw [if_neg hnul, if_neg hlong]
      cases t.walk followLast mostLinks (if p.anchor = "" then t.here else []) p.names <;>
        simp [hnul, Nat.le_of_not_lt hlong]

theorem walks_of_locate {followLast : Bool} (h : t.locate followLast p = .ok l) :
    t.Walks followLast mostLinks (t.start p) p.names l :=
  walk_eq_ok.1 (locate_eq_ok.1 h).2.2

/-! ## Removals -/

/-- What is removed as a file is no directory. -/
theorem removeFile_eq_ok :
    t.removeFile p = .ok t' ↔ ∃ l, t.locate false p = .ok l ∧ t.at? l ≠ none ∧
      t.at? l ≠ some .directory ∧ t' = t.eraseEntry l := by
  rw [removeFile]
  cases t.locate false p with
  | error e => simp
  | ok l =>
    cases hentry : t.at? l with
    | none => simp [hentry]
    | some entry => cases entry <;> simp [hentry, eq_comm]

theorem removeTree_eq_ok :
    t.removeTree p = .ok t' ↔
      ∃ l, t.locate false p = .ok l ∧ t.at? l = some .directory ∧ t' = t.eraseBelow l := by
  rw [removeTree]
  cases t.locate false p with
  | error e => simp
  | ok l =>
    cases hentry : t.at? l with
    | none => simp [hentry]
    | some entry => cases entry <;> simp [hentry, eq_comm]

/-! ## New directories -/

/-- A tree differs from another only by new directories. -/
structure OnlyDirectories (t t' : FileTree) : Prop where
  here : t'.here = t.here
  at? : ∀ l, t'.at? l = t.at? l ∨ (t.at? l = none ∧ t'.at? l = some .directory)

theorem OnlyDirectories.refl (t : FileTree) : OnlyDirectories t t := ⟨rfl, fun _ => Or.inl rfl⟩

theorem OnlyDirectories.grows (h : OnlyDirectories t t') : Grows t t' := by
  refine ⟨h.here, fun l => ?_⟩
  rcases h.at? l with hsame | ⟨hnone, hdirectory⟩
  · rw [hsame]
    exact .same _
  · rw [hnone, hdirectory]
    exact .made

/-- What is there stays there. -/
theorem OnlyDirectories.some (h : OnlyDirectories t t') {entry : FileEntry}
    (hl : t.at? l = some entry) : t'.at? l = .some entry := by
  rcases h.at? l with hsame | ⟨hnone, -⟩
  · rw [hsame, hl]
  · rw [hl] at hnone
    cases hnone

private theorem OnlyDirectories.walks (h : OnlyDirectories t t') {followLast : Bool} {links : Nat}
    {place : Location} {names : List String}
    (hl : followLast = false → ∀ target, t.at? l ≠ .some (.link target))
    (hwalk : t.Walks followLast links place names l) : t'.Walks true links place names l := by
  induction hwalk with
  | here place => exact .here place
  | up hplace hwalk ih => exact .up (h.some hplace) (ih hl)
  | stop hplace hname hshort hlink hlast => exact absurd hlink (hl hlast _)
  | follow hplace hname hshort hlink hlast hwalk ih =>
    exact .follow (h.some hplace) hname hshort (h.some hlink) (fun _ => rfl) (ih hl)
  | enter hplace hname hshort hlink hwalk ih =>
    exact .enter (h.some hplace) hname hshort
      (fun target htarget => hlink target (h.grows.link htarget)) (ih hl)

/-- A path leads to the same place when directories have been made, also if the last link is followed
there, unless it stopped at one. -/
theorem OnlyDirectories.locate_eq_ok (h : OnlyDirectories t t') {followLast : Bool}
    (hlocate : t.locate followLast p = .ok l)
    (hl : followLast = false → ∀ target, t.at? l ≠ .some (.link target)) :
    t'.locate true p = .ok l := by
  obtain ⟨hnul, hshort, hwalk⟩ := FileTree.locate_eq_ok.1 hlocate
  refine FileTree.locate_eq_ok.2 ⟨hnul, hshort, ?_⟩
  rw [FileTree.start, h.here, ← FileTree.start]
  exact walk_eq_ok.2 (h.walks hl (walk_eq_ok.1 hwalk))

/-- What is there stays there when directories are made. -/
theorem OnlyDirectories.isPresent (h : OnlyDirectories t t') (hp : t.isPresent p = .ok true) :
    t'.isPresent p = .ok true := by
  obtain ⟨l, hlocate, hl⟩ := isPresent_eq_true.1 hp
  obtain ⟨entry, hentry⟩ := Option.ne_none_iff_exists'.1 hl
  refine isPresent_eq_true.2 ⟨l, h.locate_eq_ok hlocate nofun, ?_⟩
  rw [h.some hentry]
  simp

/-! ## Missing directories -/

/-- A tree differs from another only by directories that the other one is missing at a path or above
it. -/
structure MadeAbove (p : Path) (t t' : FileTree) : Prop where
  here : t'.here = t.here
  at? : ∀ l, t'.at? l = t.at? l ∨
    (t.at? l = none ∧ t'.at? l = some .directory ∧
      ∃ q : Path, q.Above p ∧ t.isPresent q ≠ .ok true ∧ t'.locate true q = .ok l)

theorem MadeAbove.refl (p : Path) (t : FileTree) : MadeAbove p t t := ⟨rfl, fun _ => Or.inl rfl⟩

theorem MadeAbove.only (h : MadeAbove p t t') : OnlyDirectories t t' := by
  refine ⟨h.here, fun l => ?_⟩
  rcases h.at? l with hsame | ⟨hnone, hmade, -⟩
  · exact Or.inl hsame
  · exact Or.inr ⟨hnone, hmade⟩

theorem MadeAbove.trans (h : MadeAbove p t t') (h' : MadeAbove p t' t'') : MadeAbove p t t'' := by
  refine ⟨h'.here.trans h.here, fun l => ?_⟩
  rcases h'.at? l with hsame | ⟨hnone, hmade, q, hq, hmissing, hlocate⟩
  · rcases h.at? l with hbefore | ⟨hnone, hmade, q, hq, hmissing, hlocate⟩
    · exact Or.inl (hsame.trans hbefore)
    · exact Or.inr ⟨hnone, hsame.trans hmade, q, hq, hmissing, h'.only.locate_eq_ok hlocate nofun⟩
  · rcases h.at? l with hbefore | ⟨-, hbefore, -⟩
    · refine Or.inr ⟨hbefore ▸ hnone, hmade, q, hq, fun hpresent => ?_, hlocate⟩
      exact hmissing (h.only.isPresent hpresent)
    · rw [hbefore] at hnone
      cases hnone

theorem MadeAbove.of_parent (h : MadeAbove p.parent t t') : MadeAbove p t t' := by
  refine ⟨h.here, fun l => ?_⟩
  rcases h.at? l with hsame | ⟨hnone, hmade, q, hq, hmissing⟩
  · exact Or.inl hsame
  · exact Or.inr ⟨hnone, hmade, q, hq.of_parent, hmissing⟩

/-! ## Making directories -/

theorem makeDirectory_eq_ok (h : t.makeDirectory p = .ok t') :
    ∃ l, t.locate false p = .ok l ∧ t.at? l = none ∧ l ≠ [] ∧ t' = t.setEntry l .directory := by
  rw [makeDirectory] at h
  split at h
  · cases h
  · rename_i l hlocate
    split at h
    · cases h
    · rename_i hnone
      cases h
      exact ⟨l, hlocate, hnone, ne_nil_of_at? (t := t) (by simp [hnone]), rfl⟩

theorem makeDirectory_ok (h : t.makeDirectory p = .ok t') : OnlyDirectories t t' := by
  obtain ⟨location, -, hnone, hne, rfl⟩ := makeDirectory_eq_ok h
  refine ⟨rfl, fun l => ?_⟩
  rw [at?_setEntry hne]
  by_cases hl : location = l
  · rw [if_pos hl, ← hl]
    exact Or.inr ⟨hnone, rfl⟩
  · rw [if_neg hl]
    exact Or.inl rfl

/-- A path leads to the directory that is made at it. -/
theorem locate_of_makeDirectory (h : t.makeDirectory p = .ok t') :
    ∃ l, t.at? l = none ∧ l ≠ [] ∧ t' = t.setEntry l .directory ∧ t'.locate true p = .ok l := by
  have honly := makeDirectory_ok h
  obtain ⟨l, hlocate, hnone, hne, rfl⟩ := makeDirectory_eq_ok h
  exact ⟨l, hnone, hne, rfl, honly.locate_eq_ok hlocate (by simp [hnone])⟩

/-- A directory that is made was missing. -/
theorem madeAbove_makeDirectory (h : t.makeDirectory p = .ok t') : MadeAbove p t t' := by
  have honly := makeDirectory_ok h
  obtain ⟨location, hnone, hne, rfl, hlocate⟩ := locate_of_makeDirectory h
  refine ⟨rfl, fun l => ?_⟩
  rw [at?_setEntry hne]
  by_cases hl : location = l
  · rw [if_pos hl, ← hl]
    refine Or.inr ⟨hnone, rfl, p, ⟨rfl, List.prefix_refl p.names⟩, fun hpresent => ?_, hlocate⟩
    -- what the path led to, it would still lead to
    obtain ⟨k, hk, hsome⟩ := isPresent_eq_true.1 hpresent
    have hsame := honly.locate_eq_ok hk nofun
    rw [hlocate, Except.ok.injEq] at hsame
    exact hsome (hsame ▸ hnone)
  · rw [if_neg hl]
    exact Or.inl rfl

/-- What holds at the start, for a path if for its parent, and after a directory that is made at the
path, holds however far the directories of a path are made. -/
theorem makeDirectories_induction {motive : Path → FileTree → Prop} (hstart : ∀ p, motive p t)
    (hparent : ∀ {p t'}, motive p.parent t' → motive p t')
    (hmade : ∀ {p t' made}, motive p t' → t'.makeDirectory p = .ok made → motive p made)
    (p : Path) : motive p (t.makeDirectories p).1 := by
  fun_induction makeDirectories t p with
  | case1 p made hfirst => exact hmade (hstart p) hfirst
  | case2 p => exact hstart p
  | case3 p path target hup above e habove hmissing ih =>
    rw [habove] at ih
    exact hparent ih
  | case4 p path target hup above habove made hlast hmissing ih =>
    rw [habove] at ih
    exact hmade (hparent ih) hlast
  | case5 p path target hup above habove path' target' hlast hmissing ih =>
    rw [habove] at ih
    exact hparent ih
  | case6 p path target hup above habove e he hlast hmissing ih =>
    rw [habove] at ih
    exact hparent ih
  | case7 p => exact hstart p

theorem madeAbove_makeDirectories {result : Except FileError Unit}
    (h : t.makeDirectories p = (t', result)) : MadeAbove p t t' := by
  have hmade : MadeAbove p t (t.makeDirectories p).1 :=
    makeDirectories_induction (motive := fun p t' => MadeAbove p t t') (fun p => .refl p t)
      (fun h => h.of_parent) (fun h hlast => h.trans (madeAbove_makeDirectory hlast)) p
  rwa [h] at hmade

/-- However far directories are made, nothing else changes. -/
theorem onlyDirectories_makeDirectories {result : Except FileError Unit}
    (h : t.makeDirectories p = (t', result)) : OnlyDirectories t t' :=
  (madeAbove_makeDirectories h).only

theorem isDirectory_of_makeDirectory (h : t.makeDirectory p = .ok t') :
    t'.isDirectory p = .ok true := by
  obtain ⟨l, -, hne, rfl, hlocate⟩ := locate_of_makeDirectory h
  exact isDirectory_eq_true.2 ⟨l, hlocate, by rw [at?_setEntry hne, if_pos rfl]⟩

private theorem isDirectory_of_unlessDirectory {e : FileError}
    (h : t.unlessDirectory p e = .ok ()) : t.isDirectory p = .ok true := by
  unfold unlessDirectory at h
  split at h
  · cases h
  · split at h
    · assumption
    · cases h
    · cases h

/-- A directory that was made with all above it is there. -/
theorem isDirectory_of_makeDirectories (h : t.makeDirectories p = (t', .ok ())) :
    t'.isDirectory p = .ok true := by
  rw [makeDirectories] at h
  split at h
  · rename_i made hfirst
    cases h
    exact isDirectory_of_makeDirectory hfirst
  · split at h
    · split at h
      · cases h
      · split at h
        · cases h
        · rename_i above habove
          split at h
          · rename_i made hlast
            cases h
            exact isDirectory_of_makeDirectory hlast
          · cases h
          · rw [Prod.mk.injEq] at h
            exact h.1 ▸ isDirectory_of_unlessDirectory h.2
    · rw [Prod.mk.injEq] at h
      exact h.1 ▸ isDirectory_of_unlessDirectory h.2

end FileTree
end ToolBindings
