import ToolBindings.Proofs.FileTree.Alike
import ToolBindings.Proofs.FileTree.Writable

/-!
# Places that are cleared

In a tree as a disk without links holds it (`Orderly`), a file in a directory is found exactly if it is
there, unless the way to the directory leads up from places where no directory stands
(`Orderly.isPresent_child`). What is removed at a path is gone with all that was below it
(`Orderly.cleared_removeTree`, `Orderly.cleared_removeFile`), and what is written somewhere makes new
directories on the way to it alone (`Plain.at?_of_writeAtomic`).
-/

namespace ToolBindings

/-! ## Ways that lead up -/

namespace Path

variable {place k : Location} {names : List String} {name : String}

/-- The places that the names of a path lead up from. -/
def climbs (place : Location) : List String → List Location
  | [] => []
  | name :: rest => (if name = ".." then [place] else []) ++ climbs (further place name) rest

/-- What holds where a path leads to and where it leads up from holds all the way, if it holds in a
directory whenever it holds of something there. -/
theorem forall_way {holds : Location → Prop} (habove : ∀ l name, holds (l ++ [name]) → holds l)
    (hclimbs : ∀ k ∈ climbs place names, holds k) (hend : holds (fold place names)) :
    ∀ k ∈ stations place names ++ [fold place names], holds k := by
  induction names generalizing place with
  | nil =>
    intro k hk
    rwa [List.mem_singleton.1 hk]
  | cons name rest ih =>
    rw [fold_cons] at hend
    have hrest := ih (fun k hk => hclimbs k (List.mem_append_right _ hk)) hend
    refine List.forall_mem_cons.2 ⟨?_, hrest⟩
    by_cases hup : name = ".."
    · exact hclimbs place (List.mem_append_left _ (by simp [hup]))
    · have hnext := hrest _ (FileTree.here_mem_way _ _)
      rw [further_of_ne place hup] at hnext
      exact habove _ _ hnext

/-- Every name of a path that leads somewhere is in the name of a place on its way. -/
theorem exists_mem_way (hname : name ∈ names) (hup : name ≠ "..") :
    ∃ k ∈ stations place names ++ [fold place names], name ∈ k := by
  induction names generalizing place with
  | nil => cases hname
  | cons first rest ih =>
    rcases List.mem_cons.1 hname with rfl | hname
    · refine ⟨_, List.mem_cons_of_mem _ (FileTree.here_mem_way _ _), ?_⟩
      rw [further_of_ne place hup]
      exact List.mem_append_right _ (.head _)
    · obtain ⟨k, hk, hmem⟩ :
          ∃ k ∈ stations (further place first) rest ++ [fold (further place first) rest], name ∈ k :=
        ih hname
      exact ⟨k, List.mem_cons_of_mem _ hk, hmem⟩

end Path

namespace FileTree

variable {t t' t'' : FileTree} {lost : Location → Prop} {l : Location} {p : Path} {name : String}

/-- The places that a path leads up from. -/
def climbs (t : FileTree) (p : Path) : List Location := Path.climbs (t.start p) p.names

/-! ## Orderly trees -/

/-- A tree as a disk without links holds it: what stands anywhere stands in a directory, and no name
has a NUL. -/
structure Orderly (t : FileTree) : Prop where
  plain : t.Plain
  inside : ∀ l, t.at? l ≠ none → t.at? l.dropLast = some .directory
  noNul : ∀ l, t.at? l ≠ none → ∀ name ∈ l, name.toList.contains '\x00' = false

namespace Orderly

/-- A tree is orderly if each of its entries is in place. -/
theorem of_entries (h : ∀ e ∈ t.entries, (e.2 matches .link _) = false ∧
    t.at? e.1.dropLast = some .directory ∧ e.1.all (!·.toList.contains '\x00') = true) :
    t.Orderly := by
  have hentry {l : Location} {entry : FileEntry} (hat : t.at? l = some entry) :
      l = [] ∧ entry = .directory ∨ (l, entry) ∈ t.entries := by
    rw [at?] at hat
    split at hat
    · rename_i hroot
      exact Or.inl ⟨hroot, (Option.some.inj hat).symm⟩
    · exact Or.inr (Entries.mem_of_get? hat)
  refine ⟨fun l target hlink => ?_, fun l hsome => ?_, fun l hsome name hname => ?_⟩
  · rcases hentry hlink with ⟨-, hentry⟩ | hmem
    · cases hentry
    · exact Bool.noConfusion (h _ hmem).1
  · obtain ⟨entry, hat⟩ := Option.ne_none_iff_exists'.1 hsome
    rcases hentry hat with ⟨rfl, -⟩ | hmem
    · exact hat.trans (by simpa [at?] using hat.symm)
    · exact (h _ hmem).2.1
  · obtain ⟨entry, hat⟩ := Option.ne_none_iff_exists'.1 hsome
    rcases hentry hat with ⟨rfl, -⟩ | hmem
    · cases hname
    · simpa using List.all_eq_true.1 (h _ hmem).2.2 name hname

/-- Below what is no directory there is nothing. -/
theorem nothing_below (h : t.Orderly) (hl : t.at? l ≠ some .directory) {k : Location}
    (hbelow : l <+: k) (hne : k ≠ l) : t.at? k = none := by
  obtain ⟨behind, rfl⟩ := hbelow
  by_contra hsome
  refine hl (directory_above h.inside (fun hnil => hne ?_) hsome)
  rw [hnil, List.append_nil]

/-- The way to a directory leads through directories. -/
theorem directories_way (h : t.Orderly) (hclimbs : t.Directories (t.climbs p))
    (hp : t.at? (t.placeOf p) = some .directory) : t.Directories (t.way p) := by
  refine Path.forall_way (fun l name hl => ?_) hclimbs hp
  have hinside := h.inside (l ++ [name]) (by simp [hl])
  rwa [List.dropLast_concat] at hinside

/-- What stands somewhere has no NUL on the way to it. -/
theorem hasNul_of_directories (h : t.Orderly) (hdirectories : t.Directories (t.way p)) :
    p.hasNul = false := by
  rw [Path.hasNul, List.any_eq_false]
  intro name hname
  by_cases hup : name = ".."
  · rw [hup]
    decide
  · obtain ⟨k, hk, hmem⟩ : ∃ k ∈ t.way p, name ∈ k := Path.exists_mem_way hname hup
    rw [h.noNul k (by simp [hdirectories k hk]) name hmem]
    exact Bool.false_ne_true

end Orderly

private theorem walkBy_of_directories {place : Location} {names : List String}
    {follow : Location → List String → Except Obstacle Location}
    (h : t.Directories (Path.stations place names)) :
    t.walkBy false follow place names = .ok (Path.fold place names) ∨
      t.walkBy false follow place names = .error .nameTooLong := by
  induction names generalizing place with
  | nil => exact Or.inl rfl
  | cons name rest ih =>
    have hplace := h place (.head _)
    by_cases hshort : name.utf8ByteSize ≤ longestName
    · rw [walkBy_cons hplace hshort h.passable.linkless]
      exact ih fun k hk => h k (.tail _ hk)
    · have hup : name ≠ ".." := by
        rintro rfl
        exact hshort (by decide)
      rw [walkBy, hplace]
      dsimp only
      rw [if_neg hup, if_pos (Nat.lt_of_not_le hshort)]
      exact Or.inr rfl

/-- A path that passes directories leads somewhere, unless something in it is too long. -/
theorem Plain.locate_of_directories (h : t.Plain) (hnul : p.hasNul = false)
    (hdirectories : t.Directories (t.stations p)) :
    t.locate true p = .ok (t.placeOf p) ∨
      t.locate true p = .error (.obstacle .nameTooLong p none) := by
  rw [locate, hnul]
  simp only [Bool.false_eq_true, if_false]
  split
  · exact Or.inr rfl
  · obtain ⟨follow, hfollow⟩ := t.walk_eq_walkBy true mostLinks
    have hwalk : t.walkBy false follow (t.start p) p.names = .ok (t.placeOf p) ∨
        t.walkBy false follow (t.start p) p.names = .error .nameTooLong :=
      walkBy_of_directories hdirectories
    rw [← walkBy_followLast (fun k _ => h k)] at hwalk
    rw [hfollow, ← start]
    rcases hwalk with hok | hlong
    · rw [hok]
      exact Or.inl rfl
    · rw [hlong]
      exact Or.inr rfl

/-- Something in a directory is found exactly if it is there, if it can be looked up. -/
theorem Orderly.isPresent_child (h : t.Orderly) (hclimbs : t.Directories (t.climbs p))
    (hup : name ≠ "..") (hnul : name.toList.contains '\x00' = false) {found : Bool}
    (hfound : t.isPresent (p.child name) = .ok found) :
    found = (t.at? (t.placeOf (p.child name))).isSome := by
  rw [isPresent, find?] at hfound
  cases hlocate : t.locate true (p.child name) with
  | ok l =>
    obtain rfl := h.plain.eq_placeOf hlocate
    rw [hlocate] at hfound
    exact (Except.ok.inj hfound).symm
  | error e =>
    -- what cannot be reached is not there, since the way to it would be open
    have hnone : t.at? (t.placeOf (p.child name)) = none := by
      by_contra hsome
      have hinside := h.inside _ hsome
      rw [placeOf_child t p hup, List.dropLast_concat] at hinside
      have hway := h.directories_way hclimbs hinside
      have hpNul := h.hasNul_of_directories hway
      have hchildNul : (p.child name).hasNul = false := by
        rw [Path.hasNul] at hpNul ⊢
        rw [Path.child, List.any_append, hpNul, Bool.false_or]
        simpa using hnul
      have hstations : t.Directories (t.stations (p.child name)) := by
        rw [stations_eq_way_parent (by simp [Path.child]), Path.parent_child]
        exact hway
      rcases h.plain.locate_of_directories hchildNul hstations with hok | hlong
      · rw [hok] at hlocate
        cases hlocate
      · rw [hlong] at hfound
        cases hfound
    have hfalse : found = false := by
      rw [hlocate] at hfound
      cases e with
      | embeddedNul => exact (Except.ok.inj hfound).symm
      | linkedTree => cases hfound
      | obstacle what path target =>
        cases what with
        | missing | notDirectory | tooManyLinks => exact (Except.ok.inj hfound).symm
        | _ => cases hfound
    rw [hnone, hfalse]
    rfl

private theorem walkBy_congr_of_plain (h : t.Plain) (h' : t'.Plain) {followLast : Bool}
    {place : Location} {names : List String}
    {follow follow' : Location → List String → Except Obstacle Location}
    (hsame : ∀ k ∈ Path.stations place names, t'.at? k = t.at? k) :
    t'.walkBy followLast follow' place names = t.walkBy followLast follow place names := by
  induction names generalizing place with
  | nil => rfl
  | cons name rest ih =>
    have hrest : t'.walkBy followLast follow' (Path.further place name) rest
        = t.walkBy followLast follow (Path.further place name) rest :=
      ih fun k hk => hsame k (.tail _ hk)
    rw [walkBy, walkBy, hsame place (.head _)]
    cases t.at? place with
    | none => rfl
    | some entry =>
      cases entry with
      | file octets => rfl
      | link target => rfl
      | directory =>
        dsimp only
        by_cases hup : name = ".."
        · rw [Path.further, if_pos hup] at hrest
          rw [if_pos hup, if_pos hup, hrest]
        · rw [Path.further, if_neg hup] at hrest
          rw [if_neg hup, if_neg hup, hrest]
          split
          · rfl
          · -- no link stands at the next place in either tree
            split
            · rename_i hlink
              exact absurd hlink (h' _ _)
            · split
              · rename_i hlink
                exact absurd hlink (h _ _)
              · rfl

/-- Where a path leads without links depends on the places that it goes on from alone. -/
theorem Plain.locate_congr (h : t.Plain) (h' : t'.Plain) (hhere : t'.here = t.here)
    (hsame : ∀ k ∈ t.stations p, t'.at? k = t.at? k) (followLast : Bool) :
    t'.locate followLast p = t.locate followLast p := by
  obtain ⟨follow, hfollow⟩ := t.walk_eq_walkBy followLast mostLinks
  obtain ⟨follow', hfollow'⟩ := t'.walk_eq_walkBy followLast mostLinks
  have hwalk : t'.walkBy followLast follow' (t.start p) p.names
      = t.walkBy followLast follow (t.start p) p.names := walkBy_congr_of_plain h h' hsame
  rw [start] at hwalk
  rw [locate, locate, hfollow, hfollow', hhere, hwalk]

/-! ## Removals -/

/-- Whatever stood at some places is gone, and all else is as it was. -/
structure Cleared (lost : Location → Prop) (t t' : FileTree) : Prop where
  here : t'.here = t.here
  gone : ∀ l, lost l → t'.at? l = none
  kept : ∀ l, ¬lost l → t'.at? l = t.at? l

theorem Cleared.refl (hnone : ∀ l, lost l → t.at? l = none) : Cleared lost t t :=
  ⟨rfl, hnone, fun _ _ => rfl⟩

theorem Cleared.trans {lost' : Location → Prop} (h : Cleared lost t t') (h' : Cleared lost' t' t'') :
    Cleared (fun l => lost l ∨ lost' l) t t'' := by
  refine ⟨h'.here.trans h.here, fun l hl => ?_, fun l hl => ?_⟩
  · by_cases hlater : lost' l
    · exact h'.gone l hlater
    · rw [h'.kept l hlater]
      exact h.gone l (hl.resolve_right hlater)
  · rw [not_or] at hl
    rw [h'.kept l hl.2, h.kept l hl.1]

/-- Trees that differ in what is cleared alone are alike once it is. -/
theorem Cleared.alike {u u' : FileTree} (h : Cleared lost t u) (h' : Cleared lost t' u')
    (halike : AlikeBut lost t t') : Alike u u' := by
  refine ⟨by rw [h'.here, h.here, halike.here], fun l => ?_⟩
  by_cases hl : lost l
  · rw [h.gone l hl, h'.gone l hl]
  · rw [h.kept l hl, h'.kept l hl, halike.at? l hl]

/-- An orderly tree stays orderly if a place is cleared with all that is below it. -/
theorem Orderly.cleared (h : t.Orderly) (hcleared : Cleared lost t t')
    (hlost : ∀ l name, lost l → lost (l ++ [name])) : t'.Orderly := by
  have hold {l : Location} (hl : t'.at? l ≠ none) : ¬lost l ∧ t'.at? l = t.at? l := by
    have hkept : ¬lost l := fun hgone => hl (hcleared.gone l hgone)
    exact ⟨hkept, hcleared.kept l hkept⟩
  refine ⟨fun l target hlink => ?_, fun l hl => ?_, fun l hl => ?_⟩
  · rw [(hold (by simp [hlink])).2] at hlink
    exact h.plain l target hlink
  · obtain ⟨hkept, hsame⟩ := hold hl
    rcases List.eq_nil_or_concat l with rfl | ⟨front, last, rfl⟩
    · rfl
    · rw [List.concat_eq_append] at hkept hsame hl ⊢
      rw [List.dropLast_concat, hcleared.kept front fun hfront => hkept (hlost front last hfront)]
      have hinside := h.inside (front ++ [last]) (hsame ▸ hl)
      rwa [List.dropLast_concat] at hinside
  · exact h.noNul l ((hold hl).2 ▸ hl)

theorem Plain.cleared_removeTree (h : t.Plain) (hroot : t.placeOf p ≠ [])
    (hremoved : t.removeTree p = .ok t') : Cleared (t.placeOf p <+: ·) t t' := by
  obtain ⟨location, hlocate, -, rfl⟩ := removeTree_eq_ok.1 hremoved
  obtain rfl := h.eq_placeOf hlocate
  refine ⟨rfl, fun l hl => ?_, fun l hl => ?_⟩
  · have hne : l ≠ [] := by
      rintro rfl
      exact hroot (List.prefix_nil.1 hl)
    rw [at?_eraseBelow, if_pos ⟨hne, hl⟩]
  · rw [at?_eraseBelow, if_neg fun hbelow => hl hbelow.2]

theorem Orderly.cleared_removeFile (h : t.Orderly) (hremoved : t.removeFile p = .ok t') :
    Cleared (t.placeOf p <+: ·) t t' := by
  obtain ⟨location, hlocate, -, hfile, rfl⟩ := removeFile_eq_ok.1 hremoved
  obtain rfl := h.plain.eq_placeOf hlocate
  refine ⟨rfl, fun l hl => ?_, fun l hl => ?_⟩
  · rw [at?_eraseEntry (ne_nil_of_at? hfile)]
    split
    · rfl
    · rename_i hne
      exact h.nothing_below hfile hl (Ne.symm hne)
  · rw [at?_eraseEntry (ne_nil_of_at? hfile), if_neg]
    rintro rfl
    exact hl (List.prefix_refl _)

/-- A directory that is found can be removed where there are no links. -/
theorem Plain.removeTree_of_isDirectory (h : t.Plain) (hp : t.isDirectory p = .ok true) :
    ∃ t', t.removeTree p = .ok t' := by
  obtain ⟨hlocate, hdirectory⟩ := h.isDirectory_eq_true.1 hp
  have hlocate' : t.locate false p = .ok (t.placeOf p) :=
    h.locate_eq_ok h rfl (fun _ hk => hk) hlocate
  exact ⟨_, removeTree_eq_ok.2 ⟨_, hlocate', hdirectory, rfl⟩⟩

/-! ## New directories -/

theorem Plain.new_makeDirectory (h : t.Plain) (hmade : t.makeDirectory p = .ok t') :
    NewDirectories (t.way p) t t' := by
  obtain ⟨location, hlocate, hnone, hne, rfl⟩ := makeDirectory_eq_ok hmade
  obtain rfl := h.eq_placeOf hlocate
  refine ⟨rfl, fun k => ?_⟩
  rw [at?_setEntry hne]
  split
  · rename_i hk
    rw [← hk]
    exact Or.inr ⟨hnone, rfl, List.mem_append_right _ (.head _)⟩
  · exact Or.inl rfl

/-- Directories are made on the way to a path alone. -/
theorem Plain.new_makeDirectories (h : t.Plain) (p : Path) :
    NewDirectories (t.way p) t (t.makeDirectories p).1 := by
  refine makeDirectories_induction (motive := fun p t' => NewDirectories (t.way p) t t')
    (fun p => .refl _ t) (fun {p} _ hnew => hnew.mono (way_subset_of_parent t p))
    (fun hnew hmade => hnew.trans ?_) p
  have hlast := (h.grows hnew.only.grows).new_makeDirectory hmade
  rwa [hnew.only.way] at hlast

/-- Where a text was written stands the text, and all else that is new are directories on the way. -/
theorem Plain.at?_of_writeAtomic (h : t.Plain) {tag text : String}
    (hwritten : t.writeAtomic tag p text = (t', .ok ())) (l : Location) :
    t'.at? l = t.at? l ∨ (t.at? l = none ∧ t'.at? l = some .directory ∧ l ∈ t.way p.parent) ∨
      l = t.placeOf p ∧ t'.at? l = some (.file (Text.Utf8.encode text)) := by
  obtain ⟨husable, made, directory, hmade, -, hleads, -, hfinal⟩ := writeAtomic_made hwritten
  have hnew := h.new_makeDirectories p.parent
  rw [hmade] at hnew
  have hparent : directory = t.placeOf p.parent := by
    have hfold := (h.grows hnew.only.grows).eq_fold hleads
    rwa [hnew.only.grows.start] at hfold
  rw [hfinal, hparent, ← placeOf_eq_append t husable.named husable.notUp]
  by_cases hl : t.placeOf p = l
  · rw [if_pos hl]
    exact Or.inr (Or.inr ⟨hl.symm, rfl⟩)
  · rw [if_neg hl]
    exact (hnew.at? l).imp_right Or.inl

end FileTree
end ToolBindings
