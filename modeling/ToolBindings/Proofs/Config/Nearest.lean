import Mathlib.Control.Monad.Basic
import ToolBindings.Config.File

/-!
# The nearest local configuration file

Which local file the search upwards comes to (`Finds`). Among the directories below the root it is
the file of the nearest one that has one, and none only if none of them has one. The root itself is
left out, so that the search misses a file there exactly if no other directory on the way has one
(`finds_nearest_iff`).
-/

namespace ToolBindings.ConfigFile

/-- The path of the local file of a directory. -/
def localPath (directory : Location) : Path := (Path.ofLocation directory).child localName

/-- No directory that is nearer than this one has a file. The directories are all on one way, so that
the longer of two is the nearer one. -/
def NoneNearer (files : FileTree) (among : Location → Prop) (directory : Location) : Prop :=
  ∀ k, among k → directory.length < k.length → files.isPresent (localPath k) = .ok false

/-- What a search among directories comes to. -/
inductive Finds (files : FileTree) (among : Location → Prop) :
    Except Fault (Option Path) → Prop where
  /-- The file of a directory. -/
  | found {directory : Location} (hmem : among directory)
      (hpresent : files.isPresent (localPath directory) = .ok true)
      (hnearer : NoneNearer files among directory) :
      Finds files among (.ok (some (localPath directory)))
  /-- Nothing, where no directory has a file. -/
  | missing (h : ∀ k, among k → files.isPresent (localPath k) = .ok false) :
      Finds files among (.ok none)
  /-- The error of asking for the file of a directory. -/
  | failed {directory : Location} {e : FileError} (hmem : among directory)
      (herror : files.isPresent (localPath directory) = .error e)
      (hnearer : NoneNearer files among directory) :
      Finds files among (.error (crash e))

/-- The search may go through more directories if none of these has a file. -/
theorem Finds.widen {files : FileTree} {among more : Location → Prop}
    {outcome : Except Fault (Option Path)} (h : Finds files among outcome)
    (hsub : ∀ k, among k → more k)
    (hmore : ∀ k, more k → among k ∨ files.isPresent (localPath k) = .ok false) :
    Finds files more outcome := by
  have hnearer {directory : Location} (h : NoneNearer files among directory) :
      NoneNearer files more directory := by
    intro k hk hlength
    rcases hmore k hk with hin | habsent
    · exact h k hin hlength
    · exact habsent
  cases h with
  | found hmem hpresent hnone => exact .found (hsub _ hmem) hpresent (hnearer hnone)
  | missing hnone =>
    refine .missing ?_
    intro k hk
    rcases hmore k hk with hin | habsent
    · exact hnone k hin
    · exact habsent
  | failed hmem herror hnone => exact .failed (hsub _ hmem) herror (hnearer hnone)

/-- A directory and those above it, the root left out. -/
def Below (directory k : Location) : Prop := k <+: directory ∧ k ≠ []

theorem below_iff_of_ne {directory k : Location} (h : directory ≠ []) :
    Below directory k ↔ k = directory ∨ Below directory.dropLast k := by
  have hsplit := List.dropLast_concat_getLast h
  unfold Below
  constructor
  · rintro ⟨hk, hne⟩
    rw [← hsplit, List.prefix_concat_iff] at hk
    rcases hk with heq | hk
    · exact Or.inl (heq.trans hsplit)
    · exact Or.inr ⟨hk, hne⟩
  · rintro (rfl | ⟨hk, hne⟩)
    · exact ⟨List.prefix_refl k, h⟩
    · exact ⟨hk.trans (List.dropLast_prefix directory), hne⟩

theorem finds_nearestFrom (files : FileTree) (depth : Nat) (directory : Location)
    (h : directory.length = depth) :
    Finds files (Below directory) (nearestFrom files depth directory) := by
  induction depth generalizing directory with
  | zero =>
    rw [List.length_eq_zero_iff.1 h]
    refine .missing ?_
    rintro k ⟨hk, hne⟩
    exact absurd (List.prefix_nil.1 hk) hne
  | succ depth ih =>
    have hne : directory ≠ [] := List.ne_nil_of_length_eq_add_one h
    have hself : Below directory directory := ⟨List.prefix_refl directory, hne⟩
    -- no directory is nearer than the one that the search starts from
    have hnearer : NoneNearer files (Below directory) directory := by
      rintro k ⟨hk, -⟩ hlength
      exact absurd hk.length_le (Nat.not_le_of_lt hlength)
    rw [nearestFrom, if_neg hne]
    dsimp only
    split
    · rename_i e herror
      exact .failed hself herror hnearer
    · rename_i hpresent
      exact .found hself hpresent hnearer
    · rename_i habsent
      have hlength : directory.dropLast.length = depth := by
        rw [List.length_dropLast, h]
        rfl
      refine (ih directory.dropLast hlength).widen ?_ ?_
      · intro k hk
        exact (below_iff_of_ne hne).2 (Or.inr hk)
      · intro k hk
        rcases (below_iff_of_ne hne).1 hk with rfl | hk
        · exact Or.inr habsent
        · exact Or.inl hk

/-- The search finds the nearest file at or above the working directory and below the root. It finds
the nearest one up to and including the root exactly if the root has none where no directory below
it has one. -/
theorem finds_nearest_iff (files : FileTree) :
    Finds files (Below files.here) (nearest files) ∧
      (Finds files (· <+: files.here) (nearest files) ↔
        ((∀ k, Below files.here k → files.isPresent (localPath k) = .ok false) →
          files.isPresent (localPath []) = .ok false)) := by
  have hbelow : Finds files (Below files.here) (nearest files) :=
    finds_nearestFrom files files.here.length files.here rfl
  refine ⟨hbelow, ?_⟩
  -- a directory that is nearer than another one is not the root
  have hnearer {directory : Location} (h : NoneNearer files (Below files.here) directory) :
      NoneNearer files (· <+: files.here) directory := by
    intro k hk hlength
    apply h k ⟨hk, ?_⟩ hlength
    rintro rfl
    exact absurd hlength (Nat.not_lt_zero _)
  generalize nearest files = outcome at hbelow ⊢
  cases hbelow with
  | @found directory hmem hpresent hless =>
    refine iff_of_true (.found hmem.1 hpresent (hnearer hless)) ?_
    intro hnone
    rw [hnone directory hmem] at hpresent
    cases hpresent
  | missing hnone =>
    constructor
    · intro hall _
      cases hall with
      | missing hall => exact hall [] List.nil_prefix
    · intro hroot
      refine .missing ?_
      intro k hk
      by_cases hne : k = []
      · rw [hne]
        exact hroot hnone
      · exact hnone k ⟨hk, hne⟩
  | @failed directory e hmem herror hless =>
    refine iff_of_true (.failed hmem.1 herror (hnearer hless)) ?_
    intro hnone
    rw [hnone directory hmem] at herror
    cases herror

/-- A project below the root, whose only local file is in the root. -/
def rootedFiles : FileTree :=
  ⟨[(["srv"], .directory), (["srv", "crm"], .directory), ([localName], .file [])], ["srv", "crm"]⟩

/-- A file in the root is not found. -/
theorem nearest_rootedFiles :
    rootedFiles.isPresent (localPath []) = .ok true ∧ nearest rootedFiles = .ok none ∧
      ¬Finds rootedFiles (· <+: rootedFiles.here) (nearest rootedFiles) := by
  have hroot : rootedFiles.isPresent (localPath []) = .ok true := by decide +kernel
  have hnearest : nearest rootedFiles = .ok none := by decide +kernel
  refine ⟨hroot, hnearest, ?_⟩
  rw [hnearest]
  intro hfinds
  cases hfinds with
  | missing h =>
    have habsent := h [] List.nil_prefix
    rw [hroot] at habsent
    cases habsent

end ToolBindings.ConfigFile
