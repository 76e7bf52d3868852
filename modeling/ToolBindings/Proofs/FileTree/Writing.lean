import ToolBindings.Proofs.FileTree.Making

/-!
# What writing leaves

A file that is written as a whole stands afterwards in the directory that its path leads to. Apart
from it the tree differs from the one before only by new directories (`writeAtomic_ok`). While files
of other names are written it stays there, and is read as long as its directory is found
(`Written.read`).
-/

namespace ToolBindings

/-- A path that a file can be at: with a name of its own at the end and without a NUL, and neither
the path nor the name is too long. -/
structure Path.Usable (p : Path) : Prop where
  noNul : p.hasNul = false
  short : p.toText.utf8ByteSize ≤ FileTree.longestPath
  named : p.lastName ≠ ""
  notUp : p.lastName ≠ ".."
  lastShort : p.lastName.utf8ByteSize ≤ FileTree.longestName

namespace FileTree

variable {t t' : FileTree} {l k : Location}

/-- A file that was put at a free place and moved on is gone from that place. -/
theorem at?_moved {target : Location} (hl : t.at? l = none)
    (htarget : t.at? target ≠ some .directory) (entry : FileEntry) :
    (((t.setEntry l entry).eraseEntry l).setEntry target entry).at? k
      = if target = k then some entry else t.at? k := by
  have hne : l ≠ [] := ne_nil_of_at? (t := t) (by simp [hl])
  rw [at?_setEntry (ne_nil_of_at? htarget), at?_eraseEntry hne, at?_setEntry hne]
  by_cases hk : l = k
  · rw [if_pos hk, ← hk, hl]
  · rw [if_neg hk, if_neg hk]

/-! ## Files -/

theorem names_eq_append {p : Path} (h : p.lastName ≠ "") :
    p.names = p.parent.names ++ [p.lastName] := by
  have hne : p.names ≠ [] := by
    intro hnil
    rw [Path.lastName, hnil] at h
    exact h rfl
  rw [Path.lastName, Path.parent, List.getLast?_eq_some_getLast hne]
  exact (List.dropLast_concat_getLast hne).symm

/-- A file that is moved to a path comes to stand in the directory that the path leads to. -/
theorem moveFile_ok {source : Location} {sourcePath p : Path} {octets : List UInt8}
    (hsource : t.at? source = some (.file octets))
    (h : t.moveFile source sourcePath p = .ok t') :
    p.Usable ∧
      ∃ directory, t.Leads (t.start p) p.parent.names directory ∧
        t.at? directory = some .directory ∧
        t.at? (directory ++ [p.lastName]) ≠ some .directory ∧
        t' = (t.eraseEntry source).setEntry (directory ++ [p.lastName]) (.file octets) := by
  rw [moveFile, hsource] at h
  split at h
  · rename_i octets' target hoctets hlocate
    cases hoctets
    split at h
    · cases h
    · rename_i hlast
      rw [not_or] at hlast
      split at h
      · cases h
      · rename_i htarget
        cases h
        obtain ⟨hnul, hshort, hwalk⟩ := locate_eq_ok.1 hlocate
        rw [names_eq_append hlast.1] at hwalk
        obtain ⟨hlastShort, directory, hleads, hdirectory, rfl | ⟨hfollows, -⟩⟩ :=
          (walk_eq_ok.1 hwalk).parent hlast.2
        · exact ⟨⟨hnul, hshort, hlast.1, hlast.2, hlastShort⟩, directory, hleads, hdirectory,
            htarget, rfl⟩
        · cases hfollows
  · cases h
  · cases h
  · cases h

/-- A new file that is moved to a path leaves nothing where it was made. -/
private theorem moveFile_of_new {made : FileTree} {location : Location} {sourcePath p : Path}
    {octets : List UInt8} (hne : location ≠ []) (hnone : made.at? location = none)
    (h : (made.setEntry location (.file octets)).moveFile location sourcePath p = .ok t') :
    p.Usable ∧ Grows made t' ∧
      ∃ directory, made.Leads (made.start p) p.parent.names directory ∧
        made.at? directory = some .directory ∧
        ∀ k, t'.at? k
          = if directory ++ [p.lastName] = k then some (.file octets) else made.at? k := by
  have hset (k : Location) : (made.setEntry location (.file octets)).at? k
      = if location = k then some (.file octets) else made.at? k := at?_setEntry hne _
  obtain ⟨husable, directory, hleads, hdirectory, htarget, rfl⟩ :=
    moveFile_ok (by rw [hset, if_pos rfl]) h
  -- the new file is no directory and no link, so that the way to the directory was there without it
  rw [hset] at hdirectory htarget
  have hmadeDirectory : made.at? directory = some .directory := by
    split at hdirectory
    · cases hdirectory
    · exact hdirectory
  have hmadeTarget : made.at? (directory ++ [p.lastName]) ≠ some .directory := by
    split at htarget
    · rename_i heq
      rw [← heq, hnone]
      simp
    · exact htarget
  have hmadeLeads : made.Leads (made.start p) p.parent.names directory := by
    refine hleads.mono (fun k hk => ?_) (fun k target => ?_)
    · rw [hset] at hk
      split at hk
      · cases hk
      · exact hk
    · rw [hset]
      by_cases hk : location = k
      · rw [if_pos hk, ← hk, hnone]
        simp
      · rw [if_neg hk]
  have hfinal (k : Location) := at?_moved (k := k) hnone hmadeTarget (.file octets)
  refine ⟨husable, ⟨rfl, fun k => ?_⟩, directory, hmadeLeads, hmadeDirectory, hfinal⟩
  rw [hfinal]
  by_cases hk : directory ++ [p.lastName] = k
  · rw [if_pos hk, ← hk]
    exact .written hmadeTarget _
  · rw [if_neg hk]
    exact .same _

/-- A place is reserved where the directories are made and nothing is in the way. -/
theorem reserve_eq_ok {tag : String} {p : Path} {made : FileTree} {location : Location} :
    t.reserve tag p = (made, .ok location) ↔ t.makeDirectories p.parent = (made, .ok ()) ∧
      made.locate false (made.temporaryPath p tag) = .ok location ∧ made.at? location = none := by
  rw [reserve]
  rcases t.makeDirectories p.parent with ⟨directories, e | done⟩
  · simp
  · dsimp only
    cases hlocation : directories.locate false (directories.temporaryPath p tag) with
    | error e =>
      refine iff_of_false (by simp) ?_
      rintro ⟨hmade, hfound, -⟩
      cases hmade
      rw [hlocation] at hfound
      cases hfound
    | ok found =>
      dsimp only
      cases hentry : directories.at? found with
      | some entry =>
        refine iff_of_false (by simp) ?_
        rintro ⟨hmade, hfound, hnone⟩
        cases hmade
        rw [hlocation] at hfound
        cases hfound
        rw [hentry] at hnone
        cases hnone
      | none =>
        constructor
        · intro h
          cases h
          exact ⟨rfl, hlocation, hentry⟩
        · rintro ⟨hmade, hfound, -⟩
          cases hmade
          rw [hlocation] at hfound
          cases hfound
          rfl

/-- Whatever comes of it, only directories are made for a place that is reserved. -/
theorem madeAbove_reserve {tag : String} {p : Path} {made : FileTree}
    {result : Except FileError Location} (h : t.reserve tag p = (made, result)) :
    MadeAbove p.parent t made := by
  rw [reserve] at h
  split at h
  · rename_i hmade
    cases h
    exact madeAbove_makeDirectories hmade
  · rename_i hmade
    have hdirectories := madeAbove_makeDirectories hmade
    dsimp only at h
    split at h
    · cases h
      exact hdirectories
    · split at h <;> (cases h; exact hdirectories)

/-- A text that was written is the one thing new in a tree in which the directories above it were
made, and stands in the directory that its path leads to. -/
theorem writeAtomic_made {tag text : String} {p : Path}
    (h : t.writeAtomic tag p text = (t', .ok ())) :
    p.Usable ∧ ∃ made directory, t.makeDirectories p.parent = (made, .ok ()) ∧ Grows made t' ∧
      made.Leads (made.start p) p.parent.names directory ∧
      made.at? directory = some .directory ∧
      ∀ l, t'.at? l = if directory ++ [p.lastName] = l then some (.file (Text.Utf8.encode text))
        else made.at? l := by
  rw [writeAtomic] at h
  split at h
  · cases h
  · rename_i made location hreserved
    obtain ⟨hmade, -, hnone⟩ := reserve_eq_ok.1 hreserved
    dsimp only at h
    split at h
    · rename_i moved hmoved
      cases h
      have hne : location ≠ [] := ne_nil_of_at? (t := made) (by simp [hnone])
      obtain ⟨husable, hgrows, directory, hleads, hdirectory, hfinal⟩ :=
        moveFile_of_new hne hnone hmoved
      exact ⟨husable, made, directory, hmade, hgrows, hleads, hdirectory, hfinal⟩
    · cases h

/-- A text that was written stands in the directory that its path leads to; all else that has changed
is that there may be new directories. -/
theorem writeAtomic_ok {tag text : String} {p : Path}
    (h : t.writeAtomic tag p text = (t', .ok ())) :
    p.Usable ∧ ∃ made directory, t.makeDirectories p.parent = (made, .ok ()) ∧ Grows made t' ∧
      made.Leads (made.start p) p.parent.names directory ∧
      made.at? directory = some .directory ∧
      t'.at? (directory ++ [p.lastName]) = some (.file (Text.Utf8.encode text)) ∧
      ∀ l, l ≠ directory ++ [p.lastName] →
        t'.at? l = t.at? l ∨ (t.at? l = none ∧ t'.at? l = some .directory) := by
  obtain ⟨husable, made, directory, hmade, hgrows, hleads, hdirectory, hfinal⟩ := writeAtomic_made h
  refine ⟨husable, made, directory, hmade, hgrows, hleads, hdirectory, ?_, fun l hl => ?_⟩
  · rw [hfinal, if_pos rfl]
  · rw [hfinal, if_neg (Ne.symm hl)]
    exact (onlyDirectories_makeDirectories hmade).at? l

/-- A text that was not written has left nothing but directories above its path. -/
theorem writeAtomic_madeAbove {tag text : String} {p : Path} {e : FileError}
    (h : t.writeAtomic tag p text = (t', .error e)) : MadeAbove p.parent t t' := by
  rw [writeAtomic] at h
  split at h
  · rename_i hreserved
    cases h
    exact madeAbove_reserve hreserved
  · rename_i made location hreserved
    dsimp only at h
    split at h
    · cases h
    · cases h
      -- what was put at a free place is gone from it again
      have hnone := (reserve_eq_ok.1 hreserved).2.2
      have hne : location ≠ [] := ne_nil_of_at? (t := made) (by simp [hnone])
      refine (madeAbove_reserve hreserved).trans ⟨rfl, fun k => Or.inl ?_⟩
      rw [at?_eraseEntry hne, at?_setEntry hne]
      by_cases hk : location = k
      · rw [if_pos hk, ← hk, hnone]
      · rw [if_neg hk, if_neg hk]

theorem writeAtomic_error {tag text : String} {p : Path} {e : FileError}
    (h : t.writeAtomic tag p text = (t', .error e)) : OnlyDirectories t t' :=
  (writeAtomic_madeAbove h).only

/-! ## Texts that are begun -/

/-- A text that was begun has left an empty file where nothing was, beside new directories. -/
theorem writeAborted_ok {tag : String} {p : Path} (h : t.writeAborted tag p = (t', .ok ())) :
    Grows t t' ∧ ∃ l, t.at? l = none ∧ t'.at? l = some (.file []) ∧
      ∀ k, k ≠ l → t'.at? k = t.at? k ∨ (t.at? k = none ∧ t'.at? k = some .directory) := by
  rw [writeAborted] at h
  split at h
  · cases h
  · rename_i made location hreserved
    cases h
    have hmade := (madeAbove_reserve hreserved).only
    have hnone := (reserve_eq_ok.1 hreserved).2.2
    have hne : location ≠ [] := ne_nil_of_at? (t := made) (by simp [hnone])
    have hset (k : Location) : (made.setEntry location (.file [])).at? k
        = if location = k then some (.file []) else made.at? k := at?_setEntry hne _
    refine ⟨hmade.grows.trans ⟨rfl, fun k => ?_⟩, location, ?_, ?_, fun k hk => ?_⟩
    · rw [hset]
      by_cases hk : location = k
      · rw [if_pos hk, ← hk, hnone]
        exact .written (by simp) []
      · rw [if_neg hk]
        exact .same _
    · rcases hmade.at? location with hsame | ⟨-, hdirectory⟩
      · rw [← hsame, hnone]
      · rw [hnone] at hdirectory
        cases hdirectory
    · rw [hset, if_pos rfl]
    · rw [hset, if_neg (Ne.symm hk)]
      exact hmade.at? k

theorem writeAborted_error {tag : String} {p : Path} {e : FileError}
    (h : t.writeAborted tag p = (t', .error e)) : OnlyDirectories t t' := by
  rw [writeAborted] at h
  split at h
  · rename_i hreserved
    cases h
    exact (madeAbove_reserve hreserved).only
  · cases h

/-- Whatever comes of beginning a text, the tree grows. -/
theorem grows_of_writeAborted (t : FileTree) (tag : String) (p : Path) :
    Grows t (t.writeAborted tag p).1 := by
  rcases hbegun : t.writeAborted tag p with ⟨t', e | done⟩
  · exact (writeAborted_error hbegun).grows
  · exact (writeAborted_ok hbegun).1

/-! ## Written texts -/

/-- A text was once written to a path, and it still stands where it was put. -/
def Written (t : FileTree) (p : Path) (text : String) : Prop :=
  p.Usable ∧ ∃ made directory, Grows made t ∧ made.Leads (t.start p) p.parent.names directory ∧
    made.at? directory = some .directory ∧
    t.at? (directory ++ [p.lastName]) = some (.file (Text.Utf8.encode text))

theorem Grows.start (h : Grows t t') (p : Path) : t'.start p = t.start p := by
  rw [FileTree.start, FileTree.start, h.here]

theorem grows_writeAtomic {tag text : String} {p : Path}
    (h : t.writeAtomic tag p text = (t', .ok ())) : Grows t t' := by
  obtain ⟨-, made, directory, hmade, hgrows, -⟩ := writeAtomic_ok h
  exact (onlyDirectories_makeDirectories hmade).grows.trans hgrows

/-- Whatever comes of writing a text, the tree grows. -/
theorem grows_of_writeAtomic (t : FileTree) (tag : String) (p : Path) (text : String) :
    Grows t (t.writeAtomic tag p text).1 := by
  rcases hwritten : t.writeAtomic tag p text with ⟨t', e | done⟩
  · exact (writeAtomic_error hwritten).grows
  · exact grows_writeAtomic hwritten

theorem written_writeAtomic {tag text : String} {p : Path}
    (h : t.writeAtomic tag p text = (t', .ok ())) : t'.Written p text := by
  obtain ⟨husable, made, directory, hmade, hgrows, hleads, hdirectory, hfile, -⟩ := writeAtomic_ok h
  rw [← hgrows.start] at hleads
  exact ⟨husable, made, directory, hgrows, hleads, hdirectory, hfile⟩

/-- Writing a file of another name leaves a written text where it is. -/
theorem Written.writeAtomic {tag text text' : String} {p q : Path} (hq : t.Written q text')
    (h : t.writeAtomic tag p text = (t', .ok ())) (hne : q.lastName ≠ p.lastName) :
    t'.Written q text' := by
  obtain ⟨husable, made, directory, hmade, hleads, hdirectory, hfile⟩ := hq
  have hgrows := grows_writeAtomic h
  obtain ⟨-, -, target, -, -, -, -, -, hframe⟩ := writeAtomic_ok h
  refine ⟨husable, made, directory, hmade.trans hgrows, by rwa [hgrows.start], hdirectory, ?_⟩
  have hother : directory ++ [q.lastName] ≠ target ++ [p.lastName] := by
    intro heq
    exact hne (List.singleton_inj.1 (List.append_inj_right' heq rfl))
  rcases hframe _ hother with hsame | ⟨hnone, -⟩
  · rw [hsame, hfile]
  · rw [hfile] at hnone
    cases hnone

/-- A written text stands in the directory that its path leads to now. -/
theorem Written.at? {text : String} {p : Path} (h : t.Written p text) {directory : Location}
    (hleads : t.Leads (t.start p) p.parent.names directory)
    (hdirectory : t.at? directory = some .directory) :
    t.at? (directory ++ [p.lastName]) = some (.file (Text.Utf8.encode text)) := by
  obtain ⟨-, made, directory', hgrows, hleads', hdirectory', hfile⟩ := h
  have hsame := hleads'.unique hgrows hdirectory' hleads hdirectory
  rwa [hsame]

/-! ## Reading -/

/-- What is in a directory is found there, unless it is a link. -/
theorem locate_child {p : Path} (hp : p.Usable) (hparent : t.locate true p.parent = .ok l)
    (hl : t.at? l = some .directory) (hlink : ∀ target, t.at? (l ++ [p.lastName]) ≠ some (.link target)) :
    t.locate true p = .ok (l ++ [p.lastName]) := by
  refine locate_eq_ok.2 ⟨hp.noNul, hp.short, ?_⟩
  rw [names_eq_append hp.named]
  exact walk_eq_ok.2 ((walks_of_locate hparent).child hl hp.notUp hp.lastShort hlink)

/-- A written text is read where its directory is still there. -/
theorem Written.read {text : String} {p : Path} (h : t.Written p text)
    (hparent : t.isDirectory p.parent = .ok true) : t.read p = .ok (Text.Utf8.encode text) := by
  obtain ⟨directory, hlocate, hdirectory⟩ := isDirectory_eq_true.1 hparent
  have hfile := h.at? ((walks_of_locate hlocate).leads nofun) hdirectory
  exact read_eq_ok.2 ⟨_, locate_child h.1 hlocate hdirectory (by simp [hfile]), hfile⟩

end FileTree
end ToolBindings
