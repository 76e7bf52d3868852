import ToolBindings.Proofs.FileTree.Reading
import ToolBindings.Proofs.FileTree.Removing

/-!
# Files that are gone

When files were removed one after the other (`Removed`), a path reads what it read before exactly if
it did not come to the place of one of them, be it on its way through a link (`Removed.read_iff`).
-/

namespace ToolBindings.FileTree

variable {t t' t'' : FileTree} {lost : Location → Prop} {place l : Location} {p : Path}

/-! ## Places where nothing stands any more -/

/-- A walk to a place that is no directory ends there, or nowhere. -/
private theorem Walks.stops {followLast : Bool} {links : Nat} {names : List String}
    (hplace : t.at? place ≠ some .directory) (h : t.Walks followLast links place names l) :
    names = [] ∧ l = place := by
  cases h with
  | here => exact ⟨rfl, rfl⟩
  | up h | stop h | follow h | enter h => exact absurd h hplace

/-- Where a tree has neither directories nor links at lost places, names that come to one lead there
and not further. -/
theorem stops_of_walkMeets {links : Nat} {names more : List String}
    (hsame : ∀ k, ¬lost k → t'.at? k = t.at? k) (hdirectory : ∀ k, lost k → t'.at? k ≠ some .directory)
    (hlinks : ∀ k target, lost k → t'.at? k ≠ some (.link target))
    (h : t.WalkMeets lost links place names)
    (hwalk : t'.Walks true links place (names ++ more) l) : more = [] ∧ lost l := by
  have hstops {links : Nat} {place : Location} {names : List String} (hlost : lost place)
      (hwalk : t'.Walks true links place (names ++ more) l) : more = [] ∧ lost l := by
    obtain ⟨hnames, rfl⟩ := hwalk.stops (hdirectory place hlost)
    exact ⟨(List.append_eq_nil_iff.1 hnames).2, hlost⟩
  have hkept {k : Location} {target : String} (hfound : t'.at? k = some (.link target)) :
      t.at? k = some (.link target) := by
    rwa [hsame k fun hlost => hlinks k target hlost hfound] at hfound
  induction h with
  | here h => exact hstops h hwalk
  | up hplace h ih =>
    obtain ⟨-, hrest⟩ | ⟨hname, -⟩ | ⟨hname, -⟩ := hwalk.step
    · exact ih hrest
    · exact absurd rfl hname
    · exact absurd rfl hname
  | link hplace hname hlink h =>
    -- the link has given way to something that names do not lead through
    obtain ⟨hup, -⟩ | ⟨-, target, left, hfound, -⟩ | ⟨-, -, hrest⟩ := hwalk.step
    · exact absurd hup hname
    · exact absurd hfound (hlinks _ _ h)
    · exact hstops h hrest
  | @follow links place name target rest hplace hname hlink h ih =>
    obtain ⟨hup, -⟩ | ⟨-, target', left, hfound, hleft, hrest⟩ | ⟨-, hnolink, hrest⟩ := hwalk.step
    · exact absurd hup hname
    · have hsameLink := hkept hfound
      rw [hlink, Option.some.injEq, FileEntry.link.injEq] at hsameLink
      rw [← hsameLink, ← Nat.succ.inj hleft, List.append_eq, ← List.append_assoc] at hrest
      exact ih hrest
    · by_cases hlost : lost (place ++ [name])
      · exact hstops hlost hrest
      · exact absurd ((hsame _ hlost).trans hlink) (hnolink target)
  | enter hplace hname hlink h ih =>
    obtain ⟨hup, -⟩ | ⟨-, target, left, hfound, -⟩ | ⟨-, -, hrest⟩ := hwalk.step
    · exact absurd hup hname
    · exact absurd (hkept hfound) (hlink target)
    · exact ih hrest

/-- A path that comes to a lost place reads nothing any more. -/
theorem read_ne_ok_of_meets (hgone : ∀ k, lost k → t'.at? k = none) (hthinned : Thinned lost t t')
    (h : t.Meets lost p) (octets : List UInt8) : t'.read p ≠ .ok octets := by
  intro hread
  obtain ⟨l, hlocate, hl⟩ := read_eq_ok.1 hread
  have hwalk := walks_of_locate hlocate
  rw [start, hthinned.here] at hwalk
  rw [← List.append_nil p.names] at hwalk
  have hlost : lost l := (stops_of_walkMeets (fun k hk => hthinned.same hk)
    (fun k hk => by simp [hgone k hk]) (fun k target hk => by simp [hgone k hk]) h hwalk).2
  rw [hgone l hlost] at hl
  cases hl

/-! ## Removed files -/

/-- The places that paths lead to without a last link. -/
def PlacesOf (t : FileTree) (paths : List Path) (l : Location) : Prop :=
  ∃ q ∈ paths, t.locate false q = .ok l

/-- A tree from which nothing is gone but what stood at some paths, and that is gone. -/
structure Removed (paths : List Path) (t t' : FileTree) : Prop where
  thinned : Thinned (t.PlacesOf paths) t t'
  gone : ∀ q ∈ paths, ∃ l, t.locate false q = .ok l ∧ t'.at? l = none

namespace Removed

variable {paths more : List Path}

theorem refl (t : FileTree) : Removed [] t t := ⟨.refl _ t, nofun⟩

theorem of_removeFile (h : t.removeFile p = .ok t') : Removed [p] t t' := by
  obtain ⟨l, hlocate, -, hdirectory, rfl⟩ := removeFile_eq_ok.1 h
  have hl : l ≠ [] := ne_nil_of_at? hdirectory
  refine ⟨⟨rfl, fun k => ?_⟩, fun q hq => ?_⟩
  · rw [at?_eraseEntry hl]
    split
    · rename_i hk
      exact Or.inr ⟨rfl, p, List.mem_singleton_self p, hk ▸ hlocate⟩
    · exact Or.inl rfl
  · rw [List.mem_singleton] at hq
    exact ⟨l, hq ▸ hlocate, by rw [at?_eraseEntry hl, if_pos rfl]⟩

/-- What is lost at a path is gone. -/
theorem at?_eq_none (h : Removed paths t t') {k : Location} (hk : t.PlacesOf paths k) :
    t'.at? k = none := by
  obtain ⟨q, hq, hlocate⟩ := hk
  obtain ⟨l, hlocate', hnone⟩ := h.gone q hq
  rw [hlocate, Except.ok.injEq] at hlocate'
  rw [hlocate', hnone]

/-- What was removed later stood where it had stood before. -/
theorem trans (h : Removed paths t t') (h' : Removed more t' t'') :
    Removed (paths ++ more) t t'' := by
  refine ⟨(h.thinned.mono ?_).trans (h'.thinned.mono ?_), fun q hq => ?_⟩
  · rintro l ⟨q, hq, hlocate⟩
    exact ⟨q, List.mem_append_left more hq, hlocate⟩
  · rintro l ⟨q, hq, hlocate⟩
    exact ⟨q, List.mem_append_right paths hq, h.thinned.locate_eq_ok hlocate⟩
  · rcases List.mem_append.1 hq with hq | hq
    · obtain ⟨l, hlocate, hnone⟩ := h.gone q hq
      refine ⟨l, hlocate, ?_⟩
      rcases h'.thinned.at? l with hsame | ⟨hgone, -⟩
      · exact hsame.trans hnone
      · exact hgone
    · obtain ⟨l, hlocate, hnone⟩ := h'.gone q hq
      exact ⟨l, h.thinned.locate_eq_ok hlocate, hnone⟩

/-- A path still reads what it read exactly if it came to no place that is lost. -/
theorem read_iff (h : Removed paths t t') (p : Path) (octets : List UInt8) :
    t'.read p = .ok octets ↔ t.read p = .ok octets ∧ ¬t.Meets (t.PlacesOf paths) p := by
  constructor
  · intro hread
    have hmeets : ¬t.Meets (t.PlacesOf paths) p := fun hmeets =>
      read_ne_ok_of_meets (fun k => h.at?_eq_none) h.thinned hmeets octets hread
    rw [← read_congr h.thinned.here (fun k hk => h.thinned.same hk) hmeets]
    exact ⟨hread, hmeets⟩
  · rintro ⟨hread, hmeets⟩
    rw [read_congr h.thinned.here (fun k hk => h.thinned.same hk) hmeets, hread]

/-- What is a file was one. -/
theorem isFile (h : Removed paths t t') (hfile : t'.isFile p = .ok true) :
    t.isFile p = .ok true := by
  obtain ⟨octets, hread⟩ := isFile_eq_true.1 hfile
  exact isFile_eq_true.2 ⟨octets, ((h.read_iff p octets).1 hread).1⟩

/-- What was removed is no file. -/
theorem not_isFile (h : Removed paths t t') (hp : p ∈ paths) : t'.isFile p ≠ .ok true := by
  intro hfile
  obtain ⟨octets, hread⟩ := isFile_eq_true.1 hfile
  obtain ⟨l, hlocate, -⟩ := h.gone p hp
  -- the path comes to its own place
  have hmeets : t.Meets (t.PlacesOf paths) p :=
    (walks_of_locate hlocate).meets ⟨p, hp, hlocate⟩
  exact ((h.read_iff p octets).1 hread).2 hmeets

end Removed
end ToolBindings.FileTree
