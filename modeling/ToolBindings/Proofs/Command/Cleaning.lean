import ToolBindings.Proofs.Command.Collision
import ToolBindings.Proofs.Command.Partial
import ToolBindings.Proofs.FileTree.Clearing

/-!
# Cleaning

In a tree without links cleaning clears what it names, as long as the way to the generated files leads
up from no place that is missing or cleaned (`cleared_cleanPaths`). Whether it gets through depends on
nothing that it clears (`cleanPaths_of_alikeBut`), so that trees that differ in that alone are alike
afterwards (`alike_cleanPaths`).
-/

namespace ToolBindings

open FileTree (Alike AlikeBut Cleared Orderly)

/-- A path leads up from no place but where there is a directory that is not lost. -/
def FileTree.ClimbsAside (lost : Location → Prop) (t : FileTree) (p : Path) : Prop :=
  ∀ k ∈ t.climbs p, t.at? k = some .directory ∧ ¬lost k

namespace CommandRun

variable {servers : List Server} {paths : List Path} {base path : Path} {w w' v : Workspace}

/-- A name that a file can have in a directory. -/
structure Childlike (name : String) : Prop where
  notUp : name ≠ ".."
  noNul : name.toList.contains '\x00' = false

theorem childlike_of_isIdentifier {name : String} (h : Name.IsIdentifier name) : Childlike name where
  notUp := by
    rintro rfl
    exact absurd (h.isAlphanum '.' (by decide)) (by decide)
  noNul := by
    by_contra hnul
    rw [Bool.not_eq_false, List.contains_iff_mem] at hnul
    exact absurd (h.isAlphanum _ hnul) (by decide)

/-- A clean target is something in the directory of generated files. -/
theorem exists_name_of_mem_cleanTargets {g : GeneratedSettings}
    (h : path ∈ cleanTargets g servers) : ∃ name, path = g.base.child name ∧ Childlike name := by
  rcases List.mem_append.1 h with h | h
  · obtain ⟨server, -, rfl⟩ := List.mem_map.1 h
    exact ⟨_, rfl, childlike_of_isIdentifier (Name.isIdentifier_package server.slug)⟩
  · rw [List.mem_singleton.1 h]
    exact ⟨_, rfl, moduleFile_ne_up aggregateName, by decide⟩

/-- Where there are no links, what is there can be removed. -/
theorem removeAny_of_isPresent {t : FileTree} (h : t.Plain)
    (hpresent : t.isPresent path = .ok true) : ∃ t', removeAny t path = .ok t' := by
  rcases h.read_or_isDirectory_of_isPresent hpresent with ⟨octets, hread⟩ | hdirectory
  · have hfile := (h.read_eq_ok.1 hread)
    have hnot : t.isDirectory path = .ok false := by
      rw [FileTree.isDirectory, FileTree.find?, hfile.1]
      simp only [hfile.2, Except.map]
    rw [removeAny, hnot]
    exact FileTree.removeFile_of_isFile (FileTree.isFile_eq_true.2 ⟨octets, hread⟩)
  · rw [removeAny, hdirectory]
    exact h.removeTree_of_isDirectory hdirectory

/-! ## What is cleared -/

/-- What stands at the places of some paths and below. -/
def Below (paths : List Path) (t : FileTree) (l : Location) : Prop :=
  ∃ p ∈ paths, t.placeOf p <+: l

theorem Below.concat {t : FileTree} {l : Location} (h : Below paths t l) (name : String) :
    Below paths t (l ++ [name]) := by
  obtain ⟨p, hp, hbelow⟩ := h
  exact ⟨p, hp, hbelow.trans (List.prefix_append _ _)⟩

theorem cleared_cleanPath {name : String} (h : w.files.Orderly)
    (hclimbs : w.files.Directories (w.files.climbs base)) (hname : Childlike name)
    (hclean : cleanPath false (base.child name) w = (.ok (), w')) :
    Cleared (Below [base.child name] w.files) w.files w'.files := by
  have hbelow (l : Location) : Below [base.child name] w.files l ↔
      w.files.placeOf (base.child name) <+: l := by simp [Below]
  have hroot : w.files.placeOf (base.child name) ≠ [] := by
    rw [FileTree.placeOf_child _ _ hname.notUp]
    simp
  simp only [funext fun l => propext (hbelow l)]
  rw [cleanPath] at hclean
  simp only [Bool.false_eq_true, if_false] at hclean
  split at hclean
  · cases hclean
  · rename_i hfound
    cases hclean
    -- what is not found is not there, nor is anything below it
    have hnone : w.files.at? (w.files.placeOf (base.child name)) = none := by
      simpa using (h.isPresent_child hclimbs hname.notUp hname.noNul hfound).symm
    refine .refl fun l hl => ?_
    by_cases hsame : l = w.files.placeOf (base.child name)
    · rw [hsame, hnone]
    · exact h.nothing_below (by simp [hnone]) hl hsame
  · rename_i hfound
    obtain ⟨files, hremoved⟩ := removeAny_of_isPresent h.plain hfound
    rw [hremoved] at hclean
    cases hclean
    rw [removeAny] at hremoved
    split at hremoved
    · cases hremoved
    · exact h.plain.cleared_removeTree hroot hremoved
    · exact h.cleared_removeFile hremoved

/-- Cleaning clears the places of its paths, if the way to their directory leads up from no place that
is missing or cleaned. -/
theorem cleared_cleanPaths (hnames : ∀ p ∈ paths, ∃ name, p = base.child name ∧ Childlike name)
    (h : w.files.Orderly) (haside : w.files.ClimbsAside (Below paths w.files) base)
    (hclean : cleanPaths false paths w = (.ok (), w')) :
    Cleared (Below paths w.files) w.files w'.files ∧ w'.files.Orderly := by
  induction paths generalizing w with
  | nil =>
    cases hclean
    exact ⟨.refl (by simp [Below]), h⟩
  | cons path rest ih =>
    rw [cleanPaths] at hclean
    split at hclean
    · rename_i between hpath
      obtain ⟨name, rfl, hname⟩ := hnames path List.mem_cons_self
      have hfirst := cleared_cleanPath h (fun k hk => (haside k hk).1) hname hpath
      have hbelow (l : Location) : Below (base.child name :: rest) w.files l ↔
          Below [base.child name] w.files l ∨ Below rest between.files l := by
        simp only [Below, FileTree.placeOf_of_here hfirst.here]
        simp
      have hclimbs : between.files.climbs base = w.files.climbs base := by
        rw [FileTree.climbs, FileTree.climbs, FileTree.start_of_here hfirst.here]
      -- where the way leads up nothing has been cleaned, and nothing will be
      have hlater : between.files.ClimbsAside (Below rest between.files) base := by
        intro k hk
        rw [hclimbs] at hk
        obtain ⟨hdirectory, hnot⟩ := haside k hk
        rw [hbelow, not_or] at hnot
        exact ⟨(hfirst.kept k hnot.1).trans hdirectory, hnot.2⟩
      obtain ⟨hrest, horderly⟩ := ih (fun p hp => hnames p (List.mem_cons_of_mem _ hp))
        (h.cleared hfirst fun l name hl => hl.concat name) hlater hclean
      refine ⟨?_, horderly⟩
      simp only [funext fun l => propext (hbelow l)]
      exact hfirst.trans hrest
    · cases hclean

/-! ## Trees that differ in what is cleared -/

/-- The way to a directory whose way leads up from no lost place comes to none, if only things in the
directory are lost. -/
theorem not_below_way {t : FileTree}
    (hnames : ∀ p ∈ paths, ∃ name, p = base.child name ∧ Childlike name)
    (haside : ∀ k ∈ t.climbs base, ¬Below paths t k) : ∀ k ∈ t.way base, ¬Below paths t k := by
  refine Path.forall_way (fun l name hl hbelow => hl (hbelow.concat name)) haside ?_
  rintro ⟨p, hp, hbelow⟩
  obtain ⟨name, rfl, hname⟩ := hnames p hp
  rw [FileTree.placeOf_child t base hname.notUp] at hbelow
  have hlength := hbelow.length_le
  rw [List.length_append, List.length_singleton] at hlength
  exact absurd hlength (Nat.not_succ_le_self _)

/-- Whether a path can be looked up depends on where it goes on. -/
theorem isPresent_of_locate {t t' : FileTree} (hsame : t'.locate true path = t.locate true path)
    {found : Bool} (h : t.isPresent path = .ok found) : ∃ found', t'.isPresent path = .ok found' := by
  rw [FileTree.isPresent, FileTree.find?] at h ⊢
  rw [hsame]
  cases hlocate : t.locate true path with
  | ok l => exact ⟨_, rfl⟩
  | error e =>
    rw [hlocate] at h
    cases e with
    | embeddedNul => exact ⟨found, h⟩
    | linkedTree => exact ⟨found, h⟩
    | obstacle what path target => cases what <;> exact ⟨found, h⟩

/-- Where a path can be looked up, cleaning it does not end in a crash. -/
theorem cleanPath_of_isPresent {found : Bool} (h : w.files.isPresent path = .ok found) :
    ∃ w', cleanPath false path w = (.ok (), w') := by
  rw [cleanPath, h]
  cases found with
  | false => exact ⟨_, rfl⟩
  | true =>
    dsimp only
    split
    · exact ⟨_, rfl⟩
    · split <;> exact ⟨_, rfl⟩

/-- Cleaning a path leaves alone what is not there or below. -/
theorem alikeBut_cleanPath (h : w.files.Plain) (hclean : cleanPath false path w = (.ok (), w')) :
    AlikeBut (Below [path] w.files) w.files w'.files ∧ w'.files.Plain := by
  obtain ⟨hthinned, -⟩ := thinned_cleanPath hclean
  refine ⟨⟨hthinned.here, fun l hl => hthinned.same fun hunder => hl ?_⟩,
    fun l target hlink => h l target (hthinned.some hlink)⟩
  obtain ⟨k, hlocate, -, hbelow⟩ := hunder
  rw [h.eq_placeOf hlocate] at hbelow
  exact ⟨path, List.mem_cons_self, hbelow⟩

/-- Cleaning gets through in a tree that differs from one where it does in nothing but what is lost, if
the paths come to nothing lost before their last names. -/
theorem cleanPaths_of_alikeBut {lost : Location → Prop}
    (hlost : ∀ l, Below paths w.files l → lost l)
    (hway : ∀ p ∈ paths, ∀ k ∈ w.files.stations p, ¬lost k)
    (hw : w.files.Plain) (hv : v.files.Plain) (halike : AlikeBut lost w.files v.files)
    (h : cleanPaths false paths w = (.ok (), w')) : ∃ v', cleanPaths false paths v = (.ok (), v') := by
  induction paths generalizing w v with
  | nil => exact ⟨v, rfl⟩
  | cons path rest ih =>
    rw [cleanPaths] at h
    split at h
    · rename_i between hpath
      -- the way to the path is the same in both trees, so that it can be looked up in both
      have hsame : v.files.locate true path = w.files.locate true path :=
        hw.locate_congr hv halike.here
          (fun k hk => halike.at? k (hway path List.mem_cons_self k hk)) true
      obtain ⟨found, hfound⟩ : ∃ found, w.files.isPresent path = .ok found := by
        rw [cleanPath] at hpath
        split at hpath
        · cases hpath
        · exact ⟨_, ‹_›⟩
        · exact ⟨_, ‹_›⟩
      obtain ⟨found', hfound'⟩ := isPresent_of_locate hsame hfound
      obtain ⟨between', hpath'⟩ := cleanPath_of_isPresent hfound'
      obtain ⟨hkept, hbetween⟩ := alikeBut_cleanPath hw hpath
      obtain ⟨hkept', hbetween'⟩ := alikeBut_cleanPath hv hpath'
      have hout {l : Location} (hl : ¬lost l) : ¬Below [path] w.files l := by
        rintro ⟨p, hp, hbelow⟩
        exact hl (hlost l ⟨p, List.mem_singleton.1 hp ▸ List.mem_cons_self, hbelow⟩)
      -- whatever is removed now was lost anyway
      have hnext : AlikeBut lost between.files between'.files := by
        refine ⟨by rw [hkept'.here, hkept.here, halike.here], fun l hl => ?_⟩
        have hl' : ¬Below [path] v.files l := by
          simpa only [Below, FileTree.placeOf_of_here halike.here] using hout hl
        rw [hkept'.at? l hl', hkept.at? l (hout hl), halike.at? l hl]
      have hlater : ∀ l, Below rest between.files l → lost l := by
        rintro l ⟨p, hp, hbelow⟩
        rw [FileTree.placeOf_of_here hkept.here] at hbelow
        exact hlost l ⟨p, List.mem_cons_of_mem _ hp, hbelow⟩
      have hlaterWay : ∀ p ∈ rest, ∀ k ∈ between.files.stations p, ¬lost k := by
        intro p hp
        rw [FileTree.stations_of_here hkept.here]
        exact hway p (List.mem_cons_of_mem _ hp)
      obtain ⟨v', hrest⟩ := ih hlater hlaterWay hbetween hbetween' hnext h
      refine ⟨v', ?_⟩
      rw [cleanPaths, hpath']
      exact hrest
    · cases h

/-- What is cleaned in trees that differ in nothing else is cleaned in both, and leaves them alike. -/
theorem alike_cleanPaths (hnames : ∀ p ∈ paths, ∃ name, p = base.child name ∧ Childlike name)
    (hw : w.files.Orderly) (hv : v.files.Orderly)
    (halike : AlikeBut (Below paths w.files) w.files v.files)
    (haside : w.files.ClimbsAside (Below paths w.files) base)
    (h : cleanPaths false paths w = (.ok (), w')) :
    ∃ v', cleanPaths false paths v = (.ok (), v') ∧ Alike w'.files v'.files := by
  have hbelow : Below paths v.files = Below paths w.files := by
    funext l
    simp only [Below, FileTree.placeOf_of_here halike.here]
  have hway := not_below_way hnames fun k hk => (haside k hk).2
  -- a target is in the directory that the way leads to, and so it goes on from this way alone
  have hstations : ∀ p ∈ paths, ∀ k ∈ w.files.stations p, ¬Below paths w.files k := by
    intro p hp k hk
    obtain ⟨name, rfl, -⟩ := hnames p hp
    have hsub := FileTree.stations_subset_way_parent w.files (base.child name) hk
    rw [Path.parent_child] at hsub
    exact hway k hsub
  obtain ⟨v', hv'⟩ := cleanPaths_of_alikeBut (fun _ => id) hstations hw.plain hv.plain halike h
  have hasideOther : v.files.ClimbsAside (Below paths v.files) base := by
    intro k hk
    rw [FileTree.climbs, FileTree.start_of_here halike.here] at hk
    obtain ⟨hdirectory, hnot⟩ := haside k hk
    rw [hbelow]
    exact ⟨(halike.at? k hnot).trans hdirectory, hnot⟩
  have hcleared := (cleared_cleanPaths hnames hw haside h).1
  have hclearedOther := (cleared_cleanPaths hnames hv hasideOther hv').1
  rw [hbelow] at hclearedOther
  exact ⟨v', hv', hcleared.alike hclearedOther halike⟩

end CommandRun
end ToolBindings
