import ToolBindings.Proofs.FileTree.Removing

/-!
# Trees that hold the same

Two trees can list the same entries in different ways. They are alike if at every place they hold the
same, and then every question has the same answer in both, and every change ends in the same way and
leaves them alike (`Alike.writeAtomic`).
-/

namespace ToolBindings.FileTree

/-- Two trees hold the same at every place. -/
structure Alike (t t' : FileTree) : Prop where
  here : t'.here = t.here
  at? : ∀ l, t'.at? l = t.at? l

/-- Two trees hold the same at every place that is not lost. -/
structure AlikeBut (lost : Location → Prop) (t t' : FileTree) : Prop where
  here : t'.here = t.here
  at? : ∀ l, ¬lost l → t'.at? l = t.at? l

/-- Trees are alike but for what one of them lists and the other does not. -/
theorem alikeBut_of_append (common : Entries Location FileEntry) {here : Location}
    {more more' : Entries Location FileEntry} {lost : Location → Prop}
    (h : ∀ e ∈ more ++ more', lost e.1) :
    AlikeBut lost ⟨common ++ more, here⟩ ⟨common ++ more', here⟩ := by
  refine ⟨rfl, fun l hl => ?_⟩
  have hnone {listed : Entries Location FileEntry} (hlisted : ∀ e ∈ listed, e ∈ more ++ more') :
      Entries.get? l listed = none := by
    cases hget : Entries.get? l listed with
    | none => rfl
    | some entry => exact absurd (h _ (hlisted _ (Entries.mem_of_get? hget))) hl
  rw [FileTree.at?, FileTree.at?, Entries.get?_append, Entries.get?_append,
    hnone fun _ => List.mem_append_left _, hnone fun _ => List.mem_append_right _]

variable {t t' : FileTree} {l : Location} {p : Path}

/-! ## Questions -/

private theorem not_walkMeets_nowhere {links : Nat} {place : Location} {names : List String} :
    ¬t.WalkMeets (fun _ => False) links place names := by
  intro h
  induction h with
  | here h => exact h
  | up hplace h ih => exact ih
  | link hplace hname hlink h => exact h
  | follow hplace hname hlink h ih => exact ih
  | enter hplace hname hlink h ih => exact ih

namespace Alike

variable (h : Alike t t')
include h

theorem locate (followLast : Bool) (p : Path) : t'.locate followLast p = t.locate followLast p :=
  locate_congr h.here (fun k _ => h.at? k) not_walkMeets_nowhere

theorem find? (p : Path) : t'.find? p = t.find? p :=
  find?_congr h.here (fun k _ => h.at? k) not_walkMeets_nowhere

theorem isPresent (p : Path) : t'.isPresent p = t.isPresent p := by
  rw [FileTree.isPresent, FileTree.isPresent, h.find?]

theorem isFile (p : Path) : t'.isFile p = t.isFile p := by
  rw [FileTree.isFile, FileTree.isFile, h.find?]

theorem isDirectory (p : Path) : t'.isDirectory p = t.isDirectory p := by
  rw [FileTree.isDirectory, FileTree.isDirectory, h.find?]

theorem read (p : Path) : t'.read p = t.read p :=
  read_congr h.here (fun k _ => h.at? k) not_walkMeets_nowhere

theorem temporaryPath (p : Path) (tag : String) : t'.temporaryPath p tag = t.temporaryPath p tag := by
  rw [FileTree.temporaryPath, FileTree.temporaryPath, h.here]

theorem unlessDirectory (p : Path) (e : FileError) :
    t'.unlessDirectory p e = t.unlessDirectory p e := by
  unfold FileTree.unlessDirectory
  rw [h.isDirectory]

/-! ## Changes -/

theorem setEntry (hl : l ≠ []) (entry : FileEntry) :
    Alike (t.setEntry l entry) (t'.setEntry l entry) := by
  refine ⟨h.here, fun k => ?_⟩
  rw [at?_setEntry hl, at?_setEntry hl, h.at?]

theorem eraseEntry (hl : l ≠ []) : Alike (t.eraseEntry l) (t'.eraseEntry l) := by
  refine ⟨h.here, fun k => ?_⟩
  rw [at?_eraseEntry hl, at?_eraseEntry hl, h.at?]

end Alike

/-- A change of one tree and of another come to the same: to one error, or to trees that are alike. -/
inductive SameChange : Except FileError FileTree → Except FileError FileTree → Prop where
  | ok {t t' : FileTree} (h : Alike t t') : SameChange (.ok t) (.ok t')
  | error (e : FileError) : SameChange (.error e) (.error e)

theorem SameChange.of_ok {change : Except FileError FileTree} (h : SameChange (.ok t) change) :
    ∃ t', change = .ok t' ∧ Alike t t' := by
  cases h with
  | ok halike => exact ⟨_, rfl, halike⟩

theorem SameChange.of_error {change : Except FileError FileTree} {e : FileError}
    (h : SameChange (.error e) change) : change = .error e := by
  cases h
  rfl

theorem Alike.makeDirectory (h : Alike t t') (p : Path) :
    SameChange (t.makeDirectory p) (t'.makeDirectory p) := by
  rw [FileTree.makeDirectory, FileTree.makeDirectory, h.locate]
  cases t.locate false p with
  | error e => exact .error e
  | ok location =>
    dsimp only
    rw [h.at?]
    cases hentry : t.at? location with
    | none => exact .ok (h.setEntry (ne_nil_of_at? (t := t) (by simp [hentry])) _)
    | some entry => exact .error _

theorem Alike.moveFile (h : Alike t t') {source : Location} (hsource : source ≠ [])
    (sourcePath p : Path) :
    SameChange (t.moveFile source sourcePath p) (t'.moveFile source sourcePath p) := by
  rw [FileTree.moveFile, FileTree.moveFile, h.at?, h.locate]
  split
  · rename_i octets target hoctets hlocate
    split
    · exact .error _
    · rw [h.at?]
      split
      · exact .error _
      · rename_i hdirectory
        have htarget : target ≠ [] := ne_nil_of_at? (t := t) hdirectory
        exact .ok ((h.eraseEntry hsource).setEntry htarget _)
  · exact .error _
  · exact .error _
  · exact .error _

/-- What comes of a change in one tree and in another: the same, and trees that are alike. -/
structure SameOutcome {α : Type} (outcome outcome' : FileTree × Except FileError α) : Prop where
  alike : Alike outcome.1 outcome'.1
  same : outcome'.2 = outcome.2

theorem SameOutcome.of_eq {α : Type} {outcome : FileTree × Except FileError α}
    {result : Except FileError α} (h : SameOutcome (t, result) outcome) :
    ∃ t', outcome = (t', result) ∧ Alike t t' := by
  obtain ⟨halike, hsame⟩ := h
  exact ⟨outcome.1, Prod.ext rfl hsame, halike⟩

theorem Alike.makeDirectories (h : Alike t t') (p : Path) :
    SameOutcome (t.makeDirectories p) (t'.makeDirectories p) := by
  -- by the recursion: up to the parent and, once that is there, back
  fun_induction FileTree.makeDirectories t p with
  | case1 p made hmade =>
    have hfirst := h.makeDirectory p
    rw [hmade] at hfirst
    obtain ⟨made', hmade', halike⟩ := hfirst.of_ok
    rw [FileTree.makeDirectories, hmade']
    exact ⟨halike, rfl⟩
  | case2 p path target hparent hmade =>
    have hfirst := h.makeDirectory p
    rw [hmade] at hfirst
    rw [FileTree.makeDirectories, hfirst.of_error]
    simp only [dif_pos hparent]
    exact ⟨h, rfl⟩
  | case3 p path target hparent above e habove hmade ih =>
    have hfirst := h.makeDirectory p
    rw [hmade] at hfirst
    rw [habove] at ih
    obtain ⟨above', habove', halike⟩ := ih.of_eq
    rw [FileTree.makeDirectories, hfirst.of_error]
    simp only [dif_neg hparent, habove']
    exact ⟨halike, rfl⟩
  | case4 p path target hparent above habove made hmade hmissing ih =>
    have hfirst := h.makeDirectory p
    rw [hmissing] at hfirst
    rw [habove] at ih
    obtain ⟨above', habove', halike⟩ := ih.of_eq
    have hlast := halike.makeDirectory p
    rw [hmade] at hlast
    obtain ⟨made', hmade', hmadeAlike⟩ := hlast.of_ok
    rw [FileTree.makeDirectories, hfirst.of_error]
    simp only [dif_neg hparent, habove', hmade']
    exact ⟨hmadeAlike, rfl⟩
  | case5 p path target hparent above habove path' target' hmade hmissing ih =>
    have hfirst := h.makeDirectory p
    rw [hmissing] at hfirst
    rw [habove] at ih
    obtain ⟨above', habove', halike⟩ := ih.of_eq
    have hlast := halike.makeDirectory p
    rw [hmade] at hlast
    rw [FileTree.makeDirectories, hfirst.of_error]
    simp only [dif_neg hparent, habove', hlast.of_error]
    exact ⟨halike, rfl⟩
  | case6 p path target hparent above habove e he hmade hmissing ih =>
    have hfirst := h.makeDirectory p
    rw [hmissing] at hfirst
    rw [habove] at ih
    obtain ⟨above', habove', halike⟩ := ih.of_eq
    have hlast := halike.makeDirectory p
    rw [hmade] at hlast
    rw [FileTree.makeDirectories, hfirst.of_error]
    simp only [dif_neg hparent, habove', hlast.of_error]
    exact ⟨halike, halike.unlessDirectory p e⟩
  | case7 p e he hmade =>
    have hfirst := h.makeDirectory p
    rw [hmade] at hfirst
    rw [FileTree.makeDirectories, hfirst.of_error]
    simp only
    exact ⟨h, h.unlessDirectory p e⟩

theorem Alike.reserve (h : Alike t t') (tag : String) (p : Path) :
    SameOutcome (t.reserve tag p) (t'.reserve tag p) := by
  have hmade := h.makeDirectories p.parent
  rw [FileTree.reserve, FileTree.reserve]
  -- each step is taken in both trees, and leaves trees that are alike
  rcases hparent : t.makeDirectories p.parent with ⟨made, e | done⟩
  · rw [hparent] at hmade
    obtain ⟨made', hmade', halike⟩ := hmade.of_eq
    rw [hmade']
    exact ⟨halike, rfl⟩
  · rw [hparent] at hmade
    obtain ⟨made', hmade', halike⟩ := hmade.of_eq
    rw [hmade']
    dsimp only
    rw [halike.temporaryPath, halike.locate]
    cases made.locate false (made.temporaryPath p tag) with
    | error e => exact ⟨halike, rfl⟩
    | ok location =>
      dsimp only
      rw [halike.at?]
      cases made.at? location with
      | some entry => exact ⟨halike, rfl⟩
      | none => exact ⟨halike, rfl⟩

theorem Alike.writeAtomic (h : Alike t t') (tag : String) (p : Path) (text : String) :
    SameOutcome (t.writeAtomic tag p text) (t'.writeAtomic tag p text) := by
  have hboth := h.reserve tag p
  rw [FileTree.writeAtomic, FileTree.writeAtomic]
  rcases hreserved : t.reserve tag p with ⟨made, e | location⟩
  · rw [hreserved] at hboth
    obtain ⟨made', hmade', halike⟩ := hboth.of_eq
    rw [hmade']
    exact ⟨halike, rfl⟩
  · rw [hreserved] at hboth
    obtain ⟨made', hmade', halike⟩ := hboth.of_eq
    rw [hmade']
    have hnone := (reserve_eq_ok.1 hreserved).2.2
    have hlocation : location ≠ [] := ne_nil_of_at? (t := made) (by simp [hnone])
    have hwritten := halike.setEntry hlocation (.file (Text.Utf8.encode text))
    have hmoved := hwritten.moveFile hlocation (made.temporaryPath p tag) p
    dsimp only
    rw [halike.temporaryPath]
    cases hfirst : (made.setEntry location (.file (Text.Utf8.encode text))).moveFile location
        (made.temporaryPath p tag) p with
    | ok moved =>
      rw [hfirst] at hmoved
      obtain ⟨moved', hmoved', hmovedAlike⟩ := hmoved.of_ok
      rw [hmoved']
      exact ⟨hmovedAlike, rfl⟩
    | error e =>
      rw [hfirst] at hmoved
      rw [hmoved.of_error]
      exact ⟨hwritten.eraseEntry hlocation, rfl⟩

end ToolBindings.FileTree
