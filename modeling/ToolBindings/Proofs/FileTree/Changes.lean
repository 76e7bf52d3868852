import ToolBindings.Proofs.FileTree.Plain

/-!
# Sequences of changes

Files written at some paths and things removed at others, one after the other (`Changes`). In a tree
without links nothing else comes of them than what stands at these paths and below the removed ones,
and new directories (`Changes.confined`).
-/

namespace ToolBindings.FileTree

/-- What can come of writing texts to some paths, with or without success, and of removing what
stands at others. -/
inductive Changes (tag : String) (written removed : Path → Prop) : FileTree → FileTree → Prop where
  | refl (t : FileTree) : Changes tag written removed t t
  | write {t t' : FileTree} {p : Path} (text : String) (hp : written p)
      (rest : Changes tag written removed (t.writeAtomic tag p text).1 t') :
      Changes tag written removed t t'
  | removeFile {t between t' : FileTree} {p : Path} (hp : removed p)
      (h : t.removeFile p = .ok between) (rest : Changes tag written removed between t') :
      Changes tag written removed t t'
  | removeTree {t between t' : FileTree} {p : Path} (hp : removed p)
      (h : t.removeTree p = .ok between) (rest : Changes tag written removed between t') :
      Changes tag written removed t t'

namespace Changes

variable {tag : String} {written written' removed removed' : Path → Prop} {t t' t'' : FileTree}

theorem trans (h : Changes tag written removed t t') (h' : Changes tag written removed t' t'') :
    Changes tag written removed t t'' := by
  induction h with
  | refl => exact h'
  | write text hp rest ih => exact .write text hp (ih h')
  | removeFile hp hremoved rest ih => exact .removeFile hp hremoved (ih h')
  | removeTree hp hremoved rest ih => exact .removeTree hp hremoved (ih h')

theorem mono (h : Changes tag written removed t t') (hwritten : ∀ p, written p → written' p)
    (hremoved : ∀ p, removed p → removed' p) : Changes tag written' removed' t t' := by
  induction h with
  | refl => exact .refl _
  | write text hp rest ih => exact .write text (hwritten _ hp) ih
  | removeFile hp h rest ih => exact .removeFile (hremoved _ hp) h ih
  | removeTree hp h rest ih => exact .removeTree (hremoved _ hp) h ih

/-- Where nothing is written and nothing removed, the tree stays as it is. -/
theorem eq_of_none (h : Changes tag written removed t t') (hwritten : ∀ p, ¬written p)
    (hremoved : ∀ p, ¬removed p) : t' = t := by
  cases h with
  | refl => rfl
  | write text hp => exact absurd hp (hwritten _)
  | removeFile hp => exact absurd hp (hremoved _)
  | removeTree hp => exact absurd hp (hremoved _)

/-- The places that changes reach: those of the written paths, and all from those of the removed
ones on. -/
def Reaches (written removed : Path → Prop) (t : FileTree) (l : Location) : Prop :=
  (∃ p, written p ∧ l = t.placeOf p) ∨ ∃ p, removed p ∧ t.placeOf p <+: l

/-- What changes reach does not change on the way. -/
private theorem reaches_of_confined {lost : Location → Prop} (h : Confined lost t t')
    {l : Location} (hl : Reaches written removed t' l) : Reaches written removed t l := by
  rw [Reaches] at hl ⊢
  simpa only [h.keeps.placeOf] using hl

/-- In a tree without links changes stay where they reach. -/
theorem confined (h : Changes tag written removed t t') (hplain : t.Plain) :
    Confined (Reaches written removed t) t t' := by
  -- the first change is confined, and the others reach what they reached before it
  induction h with
  | refl t => exact ⟨rfl, hplain, fun l _ => Or.inl rfl⟩
  | @write t t' p text hp rest ih =>
    have hfirst : Confined (Reaches written removed t) t (t.writeAtomic tag p text).1 :=
      (hplain.confined_writeAtomic tag text p).mono fun l hl => Or.inl ⟨p, hp, hl⟩
    exact hfirst.trans ((ih hfirst.plain).mono fun l => reaches_of_confined hfirst)
  | @removeFile t between t' p hp hremoved rest ih =>
    have hfirst : Confined (Reaches written removed t) t between :=
      (hplain.confined_removeFile hremoved).mono fun l hl => Or.inr ⟨p, hp, hl⟩
    exact hfirst.trans ((ih hfirst.plain).mono fun l => reaches_of_confined hfirst)
  | @removeTree t between t' p hp hremoved rest ih =>
    have hfirst : Confined (Reaches written removed t) t between :=
      (hplain.confined_removeTree hremoved).mono fun l hl => Or.inr ⟨p, hp, hl⟩
    exact hfirst.trans ((ih hfirst.plain).mono fun l => reaches_of_confined hfirst)

/-- Where nothing is removed, what stands elsewhere than at the written paths is what stood there,
or a new directory. -/
theorem at?_of_writes (h : Changes tag written (fun _ => False) t t') (hplain : t.Plain)
    {l : Location} (hl : ∀ p, written p → t.placeOf p ≠ l) :
    t'.at? l = t.at? l ∨ t.at? l = none ∧ t'.at? l = some .directory := by
  refine (h.confined hplain).at? l ?_
  rintro (⟨p, hp, hplace⟩ | ⟨p, hp, -⟩)
  · exact hl p hp hplace.symm
  · exact hp

/-- Where nothing is removed, the tree grows. -/
theorem grows (h : Changes tag written (fun _ => False) t t') : Grows t t' := by
  induction h with
  | refl t => exact .refl t
  | write text hp rest ih => exact (grows_of_writeAtomic _ _ _ _).trans ih
  | removeFile hp => exact hp.elim
  | removeTree hp => exact hp.elim

/-- Where nothing is removed, a file elsewhere than at the written paths is read as before. -/
theorem read_of_writes (h : Changes tag written (fun _ => False) t t') (hplain : t.Plain) {q : Path}
    (hq : ∀ p, written p → t.placeOf p ≠ t.placeOf q) {octets : List UInt8}
    (hread : t.read q = .ok octets) : t'.read q = .ok octets := by
  refine hplain.read_grows h.grows ?_ hread
  rcases h.at?_of_writes hplain hq with hsame | ⟨hnone, -⟩
  · exact hsame
  · rw [(hplain.read_eq_ok.1 hread).2] at hnone
    cases hnone

end Changes
end ToolBindings.FileTree
