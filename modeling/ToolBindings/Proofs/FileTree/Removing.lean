import ToolBindings.Proofs.FileTree.Stations

/-!
# Trees from which things were removed

What is removed does not matter to a path that does not come to it: in every tree that is the same
where the path leads through, it leads to the same (`find?_congr`, `read_congr`). After a removal
nothing else is gone than what stood at a path and below it (`Thinned`), and paths that still lead
somewhere lead to where they led before (`Thinned.locate_eq_ok`).
-/

namespace ToolBindings.FileTree

variable {t t' t'' : FileTree} {lost : Location → Prop} {place l : Location} {p : Path}

/-! ## Places on the way -/

/-- Names that are followed from a place, through at most so many links, come to a lost place. -/
inductive WalkMeets (t : FileTree) (lost : Location → Prop) :
    (links : Nat) → Location → List String → Prop where
  | here {links : Nat} {place : Location} {names : List String} (h : lost place) :
      WalkMeets t lost links place names
  | up {links : Nat} {place : Location} {rest : List String}
      (hplace : t.at? place = some .directory) (h : WalkMeets t lost links place.dropLast rest) :
      WalkMeets t lost links place (".." :: rest)
  | link {links : Nat} {place : Location} {name target : String} {rest : List String}
      (hplace : t.at? place = some .directory) (hname : name ≠ "..")
      (hlink : t.at? (place ++ [name]) = some (.link target)) (h : lost (place ++ [name])) :
      WalkMeets t lost links place (name :: rest)
  | follow {links : Nat} {place : Location} {name target : String} {rest : List String}
      (hplace : t.at? place = some .directory) (hname : name ≠ "..")
      (hlink : t.at? (place ++ [name]) = some (.link target))
      (h : WalkMeets t lost links (if (Path.ofString target).anchor = "" then place else [])
        ((Path.ofString target).names ++ rest)) :
      WalkMeets t lost (links + 1) place (name :: rest)
  | enter {links : Nat} {place : Location} {name : String} {rest : List String}
      (hplace : t.at? place = some .directory) (hname : name ≠ "..")
      (hlink : ∀ target, t.at? (place ++ [name]) ≠ some (.link target))
      (h : WalkMeets t lost links (place ++ [name]) rest) :
      WalkMeets t lost links place (name :: rest)

/-- A path comes to a lost place. -/
def Meets (t : FileTree) (lost : Location → Prop) (p : Path) : Prop :=
  t.WalkMeets lost mostLinks (t.start p) p.names

private theorem walkBy_congr {links : Nat} {followLast : Bool} {names : List String}
    {follow follow' : Location → List String → Except Obstacle Location}
    (hsame : ∀ k, ¬lost k → t'.at? k = t.at? k)
    (hfollow : ∀ place name target rest, t.at? place = some .directory → name ≠ ".." →
      t.at? (place ++ [name]) = some (.link target) →
      ¬t.WalkMeets lost links place (name :: rest) →
      follow' (if (Path.ofString target).anchor = "" then place else [])
          ((Path.ofString target).names ++ rest)
        = follow (if (Path.ofString target).anchor = "" then place else [])
          ((Path.ofString target).names ++ rest))
    (h : ¬t.WalkMeets lost links place names) :
    t'.walkBy followLast follow' place names = t.walkBy followLast follow place names := by
  -- by the walk's own cases; where it stands nothing is lost, and so it goes on in the same way
  have hhere {place : Location} {names : List String}
      (hmeets : ¬t.WalkMeets lost links place names) : t'.at? place = t.at? place :=
    hsame place fun hlost => hmeets (.here hlost)
  fun_induction walkBy t followLast follow place names with
  | case1 => rfl
  | case2 place name rest hplace =>
    rw [walkBy, hhere h, hplace]
  | case3 place rest hplace ih =>
    rw [walkBy, hhere h, hplace]
    exact ih fun hrest => h (.up hplace hrest)
  | case4 place name rest hplace hname hlong =>
    rw [walkBy, hhere h, hplace]
    simp only [if_neg hname, if_pos hlong]
  | case5 place name rest hplace hname hshort target hlink hlast =>
    have hnext := hsame (place ++ [name]) fun hlost => h (.link hplace hname hlink hlost)
    rw [walkBy, hhere h, hplace]
    simp only [if_neg hname, if_neg hshort, hnext, hlink, if_pos hlast]
  | case6 place name rest hplace hname hshort target hlink hlast next =>
    have hnext := hsame (place ++ [name]) fun hlost => h (.link hplace hname hlink hlost)
    rw [walkBy, hhere h, hplace]
    simp only [if_neg hname, if_neg hshort, hnext, hlink, if_neg hlast]
    exact hfollow place name target rest hplace hname hlink h
  | case7 place name rest hplace hname hshort hlink ih =>
    have hrest : ¬t.WalkMeets lost links (place ++ [name]) rest :=
      fun hrest => h (.enter hplace hname hlink hrest)
    rw [walkBy, hhere h, hplace]
    simp only [if_neg hname, if_neg hshort]
    split
    · rename_i target htarget
      rw [hhere hrest] at htarget
      exact absurd htarget (hlink target)
    · exact ih hrest
  | case8 place name rest entry hdirectory hplace =>
    rw [walkBy, hhere h, hplace]
    cases entry with
    | directory => exact absurd rfl hdirectory
    | file octets => rfl
    | link target => rfl

/-- Names lead to the same place in a tree that is the same where they come. -/
theorem walk_congr {followLast : Bool} {links : Nat} {names : List String}
    (hsame : ∀ k, ¬lost k → t'.at? k = t.at? k) (h : ¬t.WalkMeets lost links place names) :
    t'.walk followLast links place names = t.walk followLast links place names := by
  induction links generalizing place names with
  | zero => exact walkBy_congr hsame (fun _ _ _ _ _ _ _ _ => rfl) h
  | succ links ih =>
    refine walkBy_congr hsame (fun place name target rest hplace hname hlink hmeets => ?_) h
    exact ih fun hrest => hmeets (.follow hplace hname hlink hrest)

/-- Names come to the place that they lead to. -/
theorem Walks.meets {followLast : Bool} {links : Nat} {names : List String}
    (h : t.Walks followLast links place names l) (hl : lost l) :
    t.WalkMeets lost links place names := by
  induction h with
  | here place => exact .here hl
  | up hplace h ih => exact .up hplace (ih hl)
  | stop hplace hname hshort hlink => exact .link hplace hname hlink hl
  | follow hplace hname hshort hlink hlast h ih => exact .follow hplace hname hlink (ih hl)
  | enter hplace hname hshort hlink h ih => exact .enter hplace hname hlink (ih hl)

/-- A way begins where the path starts. -/
theorem here_mem_way (place : Location) (names : List String) :
    place ∈ Path.stations place names ++ [Path.fold place names] := by
  cases names with
  | nil => exact List.mem_singleton_self place
  | cons name rest => exact List.mem_cons_self

private theorem exists_of_walkMeets {links : Nat} {names : List String}
    (h : t.WalkMeets lost links place names)
    (hlinkless : t.Linkless (Path.stations place names ++ [Path.fold place names])) :
    ∃ k ∈ Path.stations place names ++ [Path.fold place names], lost k := by
  induction h with
  | here h => exact ⟨_, here_mem_way _ _, h⟩
  | up hplace h ih =>
    obtain ⟨k, hk, hlost⟩ := ih fun k hk => hlinkless k (List.mem_cons_of_mem _ hk)
    exact ⟨k, List.mem_cons_of_mem _ hk, hlost⟩
  | @link _ place name target rest hplace hname hlink =>
    refine absurd hlink (hlinkless _ (List.mem_cons_of_mem _ ?_) _)
    rw [← Path.further_of_ne place hname]
    exact here_mem_way _ _
  | @follow _ place name target rest hplace hname hlink =>
    refine absurd hlink (hlinkless _ (List.mem_cons_of_mem _ ?_) _)
    rw [← Path.further_of_ne place hname]
    exact here_mem_way _ _
  | @enter _ place name rest hplace hname hlink h ih =>
    rw [Path.stations, Path.fold_cons, Path.further_of_ne place hname] at hlinkless ⊢
    obtain ⟨k, hk, hlost⟩ := ih fun k hk => hlinkless k (List.mem_cons_of_mem _ hk)
    exact ⟨k, List.mem_cons_of_mem _ hk, hlost⟩

/-- Where no link is on its way, a path comes to nothing but what its names say. -/
theorem exists_of_meets (h : t.Meets lost p) (hlinkless : t.Linkless (t.way p)) :
    ∃ k ∈ t.way p, lost k :=
  exists_of_walkMeets h hlinkless

theorem at?_of_locate {followLast : Bool} (hsame : ∀ k, ¬lost k → t'.at? k = t.at? k)
    (h : ¬t.Meets lost p) (hlocate : t.locate followLast p = .ok l) : t'.at? l = t.at? l :=
  hsame l fun hl => h ((walks_of_locate hlocate).meets hl)

section

variable (hhere : t'.here = t.here) (hsame : ∀ k, ¬lost k → t'.at? k = t.at? k)
include hhere hsame

theorem locate_congr {followLast : Bool} (h : ¬t.Meets lost p) :
    t'.locate followLast p = t.locate followLast p := by
  rw [Meets, start] at h
  rw [locate, locate, hhere, walk_congr hsame h]

/-- A path that comes to no lost place leads to what it led to. -/
theorem find?_congr (h : ¬t.Meets lost p) : t'.find? p = t.find? p := by
  rw [find?, find?, locate_congr hhere hsame h]
  cases hlocate : t.locate true p with
  | ok l => simp only [at?_of_locate hsame h hlocate]
  | error e => cases e <;> rfl

theorem isFile_congr (h : ¬t.Meets lost p) : t'.isFile p = t.isFile p := by
  rw [isFile, isFile, find?_congr hhere hsame h]

theorem read_congr (h : ¬t.Meets lost p) : t'.read p = t.read p := by
  rw [read, read, locate_congr hhere hsame h]
  cases hlocate : t.locate true p with
  | ok l => simp only [at?_of_locate hsame h hlocate]
  | error e => rfl

end

/-! ## Removals -/

/-- A tree from which nothing is gone but what stood at lost places. -/
structure Thinned (lost : Location → Prop) (t t' : FileTree) : Prop where
  here : t'.here = t.here
  at? : ∀ l, t'.at? l = t.at? l ∨ t'.at? l = none ∧ lost l

/-- At or below what stands at a path. -/
def Under (t : FileTree) (p : Path) (k : Location) : Prop :=
  ∃ l, t.locate false p = .ok l ∧ t.at? l ≠ none ∧ l <+: k

namespace Thinned

theorem refl (lost : Location → Prop) (t : FileTree) : Thinned lost t t :=
  ⟨rfl, fun _ => Or.inl rfl⟩

theorem trans (h : Thinned lost t t') (h' : Thinned lost t' t'') : Thinned lost t t'' := by
  refine ⟨h'.here.trans h.here, fun l => ?_⟩
  rcases h'.at? l with hsame | hgone
  · rw [hsame]
    exact h.at? l
  · exact Or.inr hgone

theorem mono {lost' : Location → Prop} (h : Thinned lost t t') (hlost : ∀ l, lost l → lost' l) :
    Thinned lost' t t' :=
  ⟨h.here, fun l => (h.at? l).imp_right fun hgone => ⟨hgone.1, hlost l hgone.2⟩⟩

/-- What is not lost is the same. -/
theorem same (h : Thinned lost t t') {l : Location} (hl : ¬lost l) : t'.at? l = t.at? l :=
  (h.at? l).resolve_right fun hgone => hl hgone.2

/-- What is there was there. -/
theorem some (h : Thinned lost t t') {l : Location} {entry : FileEntry}
    (hl : t'.at? l = some entry) : t.at? l = .some entry := by
  rcases h.at? l with hsame | hgone
  · rw [← hsame, hl]
  · rw [hgone.1] at hl
    cases hl

private theorem walks (h : Thinned lost t t') {links : Nat} {names : List String}
    (hwalk : t'.Walks false links place names l) : t.Walks false links place names l := by
  induction hwalk with
  | here place => exact .here place
  | up hplace hwalk ih => exact .up (h.some hplace) ih
  | stop hplace hname hshort hlink hlast =>
    exact .stop (h.some hplace) hname hshort (h.some hlink) hlast
  | follow hplace hname hshort hlink hlast hwalk ih =>
    exact .follow (h.some hplace) hname hshort (h.some hlink) hlast ih
  | @enter links place l name rest hplace hname hshort hlink hwalk ih =>
    rcases h.at? (place ++ [name]) with hsame | ⟨hgone, -⟩
    · exact .enter (h.some hplace) hname hshort (hsame ▸ hlink) ih
    · -- a link may be gone: then this was the last name
      cases rest with
      | nil =>
        cases hwalk
        by_cases hbefore : ∃ target, t.at? (place ++ [name]) = .some (.link target)
        · obtain ⟨target, hbefore⟩ := hbefore
          exact .stop (h.some hplace) hname hshort hbefore rfl
        · exact .enter (h.some hplace) hname hshort (not_exists.1 hbefore) ih
      | cons next rest =>
        rw [hwalk.directory (List.cons_ne_nil next rest)] at hgone
        cases hgone

/-- A path that leads somewhere led there before. -/
theorem locate_eq_ok (h : Thinned lost t t') (hlocate : t'.locate false p = .ok l) :
    t.locate false p = .ok l := by
  obtain ⟨hnul, hshort, hwalk⟩ := FileTree.locate_eq_ok.1 hlocate
  rw [start, h.here] at hwalk
  exact FileTree.locate_eq_ok.2 ⟨hnul, hshort, walk_eq_ok.2 (h.walks (walk_eq_ok.1 hwalk))⟩

/-- What is under a path was under it. -/
theorem under (h : Thinned lost t t') {k : Location} (hk : t'.Under p k) : t.Under p k := by
  obtain ⟨l, hlocate, hl, hbelow⟩ := hk
  obtain ⟨entry, hentry⟩ := Option.ne_none_iff_exists'.1 hl
  refine ⟨l, h.locate_eq_ok hlocate, ?_, hbelow⟩
  rw [h.some hentry]
  simp

end Thinned

theorem thinned_removeFile (h : t.removeFile p = .ok t') : Thinned (t.Under p) t t' := by
  obtain ⟨l, hlocate, hl, hdirectory, rfl⟩ := removeFile_eq_ok.1 h
  refine ⟨rfl, fun k => ?_⟩
  rw [at?_eraseEntry (ne_nil_of_at? hdirectory)]
  split
  · rename_i hk
    exact Or.inr ⟨rfl, l, hlocate, hl, hk ▸ List.prefix_refl l⟩
  · exact Or.inl rfl

theorem thinned_removeTree (h : t.removeTree p = .ok t') : Thinned (t.Under p) t t' := by
  obtain ⟨l, hlocate, hl, rfl⟩ := removeTree_eq_ok.1 h
  refine ⟨rfl, fun k => ?_⟩
  rw [at?_eraseBelow]
  split
  · rename_i hk
    exact Or.inr ⟨rfl, l, hlocate, by simp [hl], hk.2⟩
  · exact Or.inl rfl

end ToolBindings.FileTree
