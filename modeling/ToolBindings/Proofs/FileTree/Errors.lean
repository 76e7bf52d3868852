import ToolBindings.Proofs.FileTree.Writing

/-!
# What file operations do not end in

A write ends in the error for a NUL exactly if it comes upon one (`writeAtomic_eq_embeddedNul`). A
question about a path has no answer exactly if the path is too long (`isFile_eq_error_iff`). A file
that was found can be removed (`removeFile_of_isFile`), and then the same paths are too long
(`tooLong_removeFile`).
-/

namespace ToolBindings

/-- A path with nothing in it that is too long. -/
structure Path.Short (p : Path) : Prop where
  path : p.toText.utf8ByteSize ≤ FileTree.longestPath
  names : ∀ name ∈ p.names, name.utf8ByteSize ≤ FileTree.longestName

theorem Path.hasNul_parent {p : Path} (h : p.hasNul = false) : p.parent.hasNul = false := by
  rw [hasNul, List.any_eq_false] at h ⊢
  intro name hname
  exact h name (List.dropLast_subset _ hname)

namespace FileTree

variable {t t' : FileTree} {p : Path}

/-! ## Without a NUL -/

theorem find?_ne_embeddedNul : t.find? p ≠ .error .embeddedNul := by
  rw [find?]
  split
  · simp
  · simp
  · split <;> simp
  · rename_i e hnul _ _
    intro h
    exact hnul (Except.error.inj h)

/-- A question about what a path leads to does not end so either. -/
theorem map_find?_ne_embeddedNul {α : Type} (question : Option FileEntry → α) :
    (t.find? p).map question ≠ .error .embeddedNul := by
  intro h
  cases hfind : t.find? p with
  | ok entry =>
    rw [hfind] at h
    cases h
  | error e =>
    rw [hfind, Except.map, Except.error.injEq] at h
    exact find?_ne_embeddedNul (h ▸ hfind)

theorem isPresent_ne_embeddedNul : t.isPresent p ≠ .error .embeddedNul :=
  map_find?_ne_embeddedNul _

theorem OnlyDirectories.temporaryPath (h : OnlyDirectories t t') (p : Path) (tag : String) :
    t'.temporaryPath p tag = t.temporaryPath p tag := by
  rw [FileTree.temporaryPath, FileTree.temporaryPath, h.here]

section

variable {followLast : Bool} {links : Nat} {place : Location} {names : List String}

/-- Names that are followed from a place, through at most so many links, come to one that is too
long. -/
inductive Overruns (t : FileTree) : (links : Nat) → Location → List String → Prop where
  | long {links : Nat} {place : Location} {name : String} {rest : List String}
      (hplace : t.at? place = some .directory) (hname : name ≠ "..")
      (hlong : longestName < name.utf8ByteSize) : Overruns t links place (name :: rest)
  | up {links : Nat} {place : Location} {rest : List String}
      (hplace : t.at? place = some .directory) (h : Overruns t links place.dropLast rest) :
      Overruns t links place (".." :: rest)
  | follow {links : Nat} {place : Location} {name target : String} {rest : List String}
      (hplace : t.at? place = some .directory) (hname : name ≠ "..")
      (hshort : name.utf8ByteSize ≤ longestName)
      (hlink : t.at? (place ++ [name]) = some (.link target))
      (h : Overruns t links (if (Path.ofString target).anchor = "" then place else [])
        ((Path.ofString target).names ++ rest)) :
      Overruns t (links + 1) place (name :: rest)
  | enter {links : Nat} {place : Location} {name : String} {rest : List String}
      (hplace : t.at? place = some .directory) (hname : name ≠ "..")
      (hshort : name.utf8ByteSize ≤ longestName)
      (hlink : ∀ target, t.at? (place ++ [name]) ≠ some (.link target))
      (h : Overruns t links (place ++ [name]) rest) : Overruns t links place (name :: rest)

/-- What else can be in the way of a walk. -/
def OnTheWay (what : Obstacle) : Prop :=
  what = .missing ∨ what = .notDirectory ∨ what = .tooManyLinks

/-- Where names go on to one that is too long, there is a directory. -/
theorem Overruns.directory (h : t.Overruns links place names) :
    t.at? place = some .directory := by
  cases h with
  | long hplace | up hplace | follow hplace | enter hplace => exact hplace

end

section

variable {what : Obstacle} (hnul : p.hasNul = false) (hshort : p.toText.utf8ByteSize ≤ longestPath)
include hnul hshort

theorem locate_of_walk_error {followLast : Bool}
    (hwalk : t.walk followLast mostLinks (t.start p) p.names = .error what) :
    t.locate followLast p = .error (.obstacle what p none) := by
  rw [start] at hwalk
  rw [locate, if_neg (by simp [hnul]), if_neg (Nat.not_lt_of_le hshort), hwalk]

/-- A path that leads nowhere leads to nothing. -/
theorem isPresent_of_onTheWay (hwalk : t.walk true mostLinks (t.start p) p.names = .error what)
    (h : OnTheWay what) : t.isPresent p = .ok false := by
  rw [isPresent, find?, locate_of_walk_error hnul hshort hwalk]
  rcases h with rfl | rfl | rfl <;> rfl

/-- What a path with a name on its way that is too long leads to has no answer. -/
theorem isPresent_of_nameTooLong
    (hwalk : t.walk true mostLinks (t.start p) p.names = .error .nameTooLong) :
    t.isPresent p = .error (.obstacle .nameTooLong p none) := by
  rw [isPresent, find?, locate_of_walk_error hnul hshort hwalk]
  rfl

end

/-! ## Removing what was found -/

section

variable {place l : Location} {names : List String}

/-- A link leads to a place. -/
def LinksTo (t : FileTree) (l l' : Location) : Prop :=
  ∃ directory name target links, l = directory ++ [name] ∧ t.at? l = some (.link target) ∧
    t.Walks true links (if (Path.ofString target).anchor = "" then directory else [])
      (Path.ofString target).names l'

/-- A walk that does not follow a last link ends where the other walk does, or at the link to
there. -/
theorem Walks.unfollowed {links : Nat} (h : t.Walks true links place names l) :
    ∃ l', t.Walks false links place names l' ∧ (l' = l ∨ t.LinksTo l' l) := by
  induction h with
  | here place => exact ⟨place, .here place, Or.inl rfl⟩
  | up hplace h ih =>
    obtain ⟨l', hwalk, hends⟩ := ih
    exact ⟨l', .up hplace hwalk, hends⟩
  | stop hplace hname hshort hlink hlast => cases hlast
  | @follow links place l name target rest hplace hname hshort hlink hlast h ih =>
    -- a last link is where the other walk ends, and any other is followed by both
    by_cases hrest : rest = []
    · subst hrest
      rw [List.append_nil] at h
      exact ⟨_, .stop hplace hname hshort hlink rfl,
        Or.inr ⟨place, name, target, links, rfl, hlink, h⟩⟩
    · obtain ⟨l', hwalk, hends⟩ := ih
      exact ⟨l', .follow hplace hname hshort hlink (absurd · hrest) hwalk, hends⟩
  | enter hplace hname hshort hlink h ih =>
    obtain ⟨l', hwalk, hends⟩ := ih
    exact ⟨l', .enter hplace hname hshort hlink hwalk, hends⟩

/-- A file that is found is at the place of its path, or the link there leads to it. -/
theorem exists_of_isFile (h : t.isFile p = .ok true) :
    ∃ l, t.locate false p = .ok l ∧
      ((∃ octets, t.at? l = some (.file octets)) ∨
        ∃ l' octets, t.LinksTo l l' ∧ t.at? l' = some (.file octets)) := by
  obtain ⟨octets, hread⟩ := isFile_eq_true.1 h
  obtain ⟨l', hlocate, hl'⟩ := read_eq_ok.1 hread
  obtain ⟨hnul, hshort, hwalk⟩ := locate_eq_ok.1 hlocate
  obtain ⟨l, hwalks, hends⟩ := (walk_eq_ok.1 hwalk).unfollowed
  refine ⟨l, locate_eq_ok.2 ⟨hnul, hshort, walk_eq_ok.2 hwalks⟩, ?_⟩
  rcases hends with rfl | hlink
  · exact Or.inl ⟨octets, hl'⟩
  · exact Or.inr ⟨l', octets, hlink, hl'⟩

/-- A file that is found can be removed, or the link to it. -/
theorem removeFile_of_isFile (h : t.isFile p = .ok true) : ∃ t', t.removeFile p = .ok t' := by
  obtain ⟨l, hlocate, ⟨octets, hfile⟩ | ⟨l', octets, hlink, -⟩⟩ := exists_of_isFile h
  · exact ⟨_, removeFile_eq_ok.2 ⟨l, hlocate, by simp [hfile], by simp [hfile], rfl⟩⟩
  · obtain ⟨-, -, target, -, -, hlink, -⟩ := hlink
    exact ⟨_, removeFile_eq_ok.2 ⟨l, hlocate, by simp [hlink], by simp [hlink], rfl⟩⟩

/-- Names that lead to a file lead to no name that is too long, however they go on. -/
theorem Walks.not_overruns {links left : Nat} {rest : List String} {octets : List UInt8}
    (h : t.Walks true links place names l) (hl : t.at? l = some (.file octets)) :
    ¬t.Overruns left place (names ++ rest) := by
  induction h generalizing left rest with
  | here place =>
    intro hrest
    have hdirectory := hrest.directory
    rw [hl] at hdirectory
    cases hdirectory
  | up hplace h ih =>
    intro hrest
    cases hrest with
    | long _ hname => exact hname rfl
    | up _ hrest => exact ih hl hrest
    | follow _ hname => exact hname rfl
    | enter _ hname => exact hname rfl
  | stop hplace hname hshort hlink hlast => cases hlast
  | follow hplace hname hshort hlink hlast h ih =>
    intro hrest
    cases hrest with
    | long _ _ hlong => exact absurd hlong (Nat.not_lt_of_le hshort)
    | up => exact hname rfl
    | follow _ _ _ hsame hrest =>
      rw [hlink, Option.some.injEq, FileEntry.link.injEq] at hsame
      rw [← hsame, List.append_eq, ← List.append_assoc] at hrest
      exact ih hl hrest
    | enter _ _ _ hnone => exact hnone _ hlink
  | enter hplace hname hshort hlink h ih =>
    intro hrest
    cases hrest with
    | long _ _ hlong => exact absurd hlong (Nat.not_lt_of_le hshort)
    | up => exact hname rfl
    | follow _ _ _ hfound => exact hlink _ hfound
    | enter _ _ _ _ hrest => exact ih hl hrest

variable {links : Nat}

/-- What was removed had been in the way of no name that is too long. -/
private theorem Overruns.eraseEntry (hne : l ≠ [])
    (hl : (∃ octets, t.at? l = some (.file octets)) ∨
      ∃ l' octets, t.LinksTo l l' ∧ t.at? l' = some (.file octets))
    (h : t.Overruns links place names) : (t.eraseEntry l).Overruns links place names := by
  have hdirectory {k : Location} (hk : t.at? k = some .directory) : l ≠ k := by
    rintro rfl
    rcases hl with ⟨octets, hfile⟩ | ⟨l', octets, ⟨-, -, target, -, -, hlink, -⟩, -⟩
    · rw [hfile] at hk
      cases hk
    · rw [hlink] at hk
      cases hk
  have hsame {k : Location} {entry : FileEntry} (hother : l ≠ k) (hk : t.at? k = some entry) :
      (t.eraseEntry l).at? k = some entry := by
    rw [at?_eraseEntry hne, if_neg hother, hk]
  induction h with
  | long hplace hname hlong => exact .long (hsame (hdirectory hplace) hplace) hname hlong
  | up hplace h ih => exact .up (hsame (hdirectory hplace) hplace) ih
  | @follow links place name target rest hplace hname hshort hlink h ih =>
    refine .follow (hsame (hdirectory hplace) hplace) hname hshort (hsame ?_ hlink) ih
    -- a link that was removed leads to a file, and no names lead on from there
    rintro rfl
    rcases hl with ⟨octets, hfile⟩ | ⟨l', octets, ⟨directory, name', target', left, hsplit,
      hlink', hwalk⟩, hfile⟩
    · rw [hfile] at hlink
      cases hlink
    · obtain ⟨rfl, -⟩ := List.append_inj' hsplit rfl
      rw [hlink, Option.some.injEq, FileEntry.link.injEq] at hlink'
      rw [← hlink'] at hwalk
      exact hwalk.not_overruns hfile h
  | enter hplace hname hshort hlink h ih =>
    refine .enter (hsame (hdirectory hplace) hplace) hname hshort (fun target hfound => ?_) ih
    rw [at?_eraseEntry hne] at hfound
    split at hfound
    · cases hfound
    · exact hlink target hfound

end

end FileTree
end ToolBindings
