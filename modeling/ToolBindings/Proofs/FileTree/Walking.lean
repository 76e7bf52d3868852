import ToolBindings.FileTree.Basic

/-!
# Where names lead

A walk over names is told by what each of its steps does: `Walks` has the walks that come to an end,
and no others (`walk_eq_ok`). `Leads` says where names lead in a tree without counting links. Two walks
over the same names come to the same directory, also if the tree has grown between them
(`Leads.unique`): a growing tree gets new directories where nothing was, and new files where no
directory was.
-/

namespace ToolBindings.FileTree

/-- Names lead from a place to another, through directories and links. -/
inductive Leads (t : FileTree) : Location → List String → Location → Prop where
  | here (place : Location) : Leads t place [] place
  | up {place l : Location} {rest : List String} (hplace : t.at? place = some .directory)
      (h : Leads t place.dropLast rest l) : Leads t place (".." :: rest) l
  | link {place l : Location} {name target : String} {rest : List String}
      (hplace : t.at? place = some .directory) (hname : name ≠ "..")
      (hlink : t.at? (place ++ [name]) = some (.link target))
      (h : Leads t (if (Path.ofString target).anchor = "" then place else [])
        ((Path.ofString target).names ++ rest) l) : Leads t place (name :: rest) l
  | enter {place l : Location} {name : String} {rest : List String}
      (hplace : t.at? place = some .directory) (hname : name ≠ "..")
      (hlink : ∀ target, t.at? (place ++ [name]) ≠ some (.link target))
      (h : Leads t (place ++ [name]) rest l) : Leads t place (name :: rest) l

/-! ## Walks -/

/-- A walk over names ends at a place, through at most so many links. A link in the last name is
followed too, or the walk stops at it. -/
inductive Walks (t : FileTree) (followLast : Bool) :
    (links : Nat) → Location → List String → Location → Prop where
  | here {links : Nat} (place : Location) : Walks t followLast links place [] place
  | up {links : Nat} {place l : Location} {rest : List String}
      (hplace : t.at? place = some .directory)
      (h : Walks t followLast links place.dropLast rest l) :
      Walks t followLast links place (".." :: rest) l
  | stop {links : Nat} {place : Location} {name target : String}
      (hplace : t.at? place = some .directory) (hname : name ≠ "..")
      (hshort : name.utf8ByteSize ≤ longestName)
      (hlink : t.at? (place ++ [name]) = some (.link target)) (hlast : followLast = false) :
      Walks t followLast links place [name] (place ++ [name])
  | follow {links : Nat} {place l : Location} {name target : String} {rest : List String}
      (hplace : t.at? place = some .directory) (hname : name ≠ "..")
      (hshort : name.utf8ByteSize ≤ longestName)
      (hlink : t.at? (place ++ [name]) = some (.link target))
      (hlast : rest = [] → followLast = true)
      (h : Walks t followLast links (if (Path.ofString target).anchor = "" then place else [])
        ((Path.ofString target).names ++ rest) l) :
      Walks t followLast (links + 1) place (name :: rest) l
  | enter {links : Nat} {place l : Location} {name : String} {rest : List String}
      (hplace : t.at? place = some .directory) (hname : name ≠ "..")
      (hshort : name.utf8ByteSize ≤ longestName)
      (hlink : ∀ target, t.at? (place ++ [name]) ≠ some (.link target))
      (h : Walks t followLast links (place ++ [name]) rest l) :
      Walks t followLast links place (name :: rest) l

/-- Every walk is a walk by some way of following links. -/
theorem walk_eq_walkBy (t : FileTree) (followLast : Bool) (links : Nat) :
    ∃ follow, t.walk followLast links = t.walkBy followLast follow := by
  cases links with
  | zero => exact ⟨_, rfl⟩
  | succ links => exact ⟨_, rfl⟩

section

variable {t : FileTree} {followLast : Bool} {links : Nat} {place l : Location}
  {names rest : List String} {name last target : String}

private theorem walks_of_walkBy {follow : Location → List String → Except Obstacle Location}
    (hfollow : ∀ place name target rest, t.at? place = some .directory → name ≠ ".." →
      name.utf8ByteSize ≤ longestName → t.at? (place ++ [name]) = some (.link target) →
      (rest = [] → followLast = true) →
      follow (if (Path.ofString target).anchor = "" then place else [])
        ((Path.ofString target).names ++ rest) = .ok l →
      t.Walks followLast links place (name :: rest) l)
    (h : t.walkBy followLast follow place names = .ok l) :
    t.Walks followLast links place names l := by
  fun_induction walkBy t followLast follow place names with
  | case1 place =>
    cases h
    exact .here l
  | case2 => cases h
  | case3 place rest hplace ih => exact .up hplace (ih h)
  | case4 => cases h
  | case5 place name rest hplace hname hshort target hlink hlast =>
    cases h
    obtain ⟨rfl, hlast⟩ := hlast
    exact .stop hplace hname (Nat.le_of_not_lt hshort) hlink (by simpa using hlast)
  | case6 place name rest hplace hname hshort target hlink hlast next =>
    refine hfollow place name target rest hplace hname (Nat.le_of_not_lt hshort) hlink ?_ h
    simpa using hlast
  | case7 place name rest hplace hname hshort hlink ih =>
    exact .enter hplace hname (Nat.le_of_not_lt hshort) hlink (ih h)
  | case8 => cases h

private theorem walks_of_walk (h : t.walk followLast links place names = .ok l) :
    t.Walks followLast links place names l := by
  induction links generalizing place names with
  | zero => exact walks_of_walkBy (fun _ _ _ _ _ _ _ _ _ hfollow => by cases hfollow) h
  | succ links ih =>
    exact walks_of_walkBy (fun _ _ _ _ hplace hname hshort hlink hlast hfollow =>
      .follow hplace hname hshort hlink hlast (ih hfollow)) h

/-- A name leads to what it names, unless that is a link. -/
theorem walk_enter (hplace : t.at? place = some .directory) (hname : name ≠ "..")
    (hshort : name.utf8ByteSize ≤ longestName)
    (hlink : ∀ target, t.at? (place ++ [name]) ≠ some (.link target)) :
    t.walk followLast links place (name :: rest)
      = t.walk followLast links (place ++ [name]) rest := by
  obtain ⟨follow, hfollow⟩ := t.walk_eq_walkBy followLast links
  rw [hfollow, walkBy, hplace]
  simp only [if_neg hname, if_neg (Nat.not_lt_of_le hshort)]

/-- The name of a link leads to its target, and the other names lead on from there. -/
theorem walk_follow (hplace : t.at? place = some .directory) (hname : name ≠ "..")
    (hshort : name.utf8ByteSize ≤ longestName)
    (hlink : t.at? (place ++ [name]) = some (.link target))
    (hlast : rest = [] → followLast = true) :
    t.walk followLast (links + 1) place (name :: rest)
      = t.walk followLast links (if (Path.ofString target).anchor = "" then place else [])
          ((Path.ofString target).names ++ rest) := by
  have hgoes : ¬(rest = [] ∧ (!followLast) = true) := by simpa using hlast
  rw [walk, walkBy, hplace]
  simp only [if_neg hname, if_neg (Nat.not_lt_of_le hshort), hlink, if_neg hgoes]

private theorem walk_of_walks (h : t.Walks followLast links place names l) :
    t.walk followLast links place names = .ok l := by
  induction h with
  | @here links place =>
    obtain ⟨follow, hfollow⟩ := t.walk_eq_walkBy followLast links
    rw [hfollow, walkBy]
  | @up links place l rest hplace h ih =>
    obtain ⟨follow, hfollow⟩ := t.walk_eq_walkBy followLast links
    rw [hfollow] at ih ⊢
    rw [walkBy, hplace]
    exact ih
  | @stop links place name target hplace hname hshort hlink hlast =>
    obtain ⟨follow, hfollow⟩ := t.walk_eq_walkBy followLast links
    rw [hfollow, walkBy, hplace]
    simp [if_neg hname, if_neg (Nat.not_lt_of_le hshort), hlink, hlast]
  | follow hplace hname hshort hlink hlast h ih =>
    rw [walk_follow hplace hname hshort hlink hlast, ih]
  | enter hplace hname hshort hlink h ih => rw [walk_enter hplace hname hshort hlink, ih]

/-- Names are followed to a place exactly if a walk over them ends there. -/
theorem walk_eq_ok :
    t.walk followLast links place names = .ok l ↔ t.Walks followLast links place names l :=
  ⟨walks_of_walk, walk_of_walks⟩

namespace Walks

/-- Where names go on, there is a directory. -/
theorem directory (h : t.Walks followLast links place names l) (hnames : names ≠ []) :
    t.at? place = some .directory := by
  cases h with
  | here => exact absurd rfl hnames
  | up hplace | stop hplace | follow hplace | enter hplace => exact hplace

/-- Where a walk goes on, it goes up, follows a link, or enters. -/
theorem step (h : t.Walks true links place (name :: rest) l) :
    (name = ".." ∧ t.Walks true links place.dropLast rest l) ∨
      (name ≠ ".." ∧ ∃ target left, t.at? (place ++ [name]) = some (.link target) ∧
        links = left + 1 ∧
        t.Walks true left (if (Path.ofString target).anchor = "" then place else [])
          ((Path.ofString target).names ++ rest) l) ∨
      (name ≠ ".." ∧ (∀ target, t.at? (place ++ [name]) ≠ some (.link target)) ∧
        t.Walks true links (place ++ [name]) rest l) := by
  cases h with
  | up hplace h => exact Or.inl ⟨rfl, h⟩
  | stop hplace hname hshort hlink hlast => cases hlast
  | follow hplace hname hshort hlink hlast h =>
    exact Or.inr (Or.inl ⟨hname, _, _, hlink, rfl, h⟩)
  | enter hplace hname hshort hlink h => exact Or.inr (Or.inr ⟨hname, hlink, h⟩)

/-- Where a walk ends is where the names lead, unless it stops at a last link. -/
theorem leads (h : t.Walks followLast links place names l)
    (hl : followLast = false → ∀ target, t.at? l ≠ some (.link target)) :
    t.Leads place names l := by
  induction h with
  | here place => exact .here place
  | up hplace h ih => exact .up hplace (ih hl)
  | stop hplace hname hshort hlink hlast => exact absurd hlink (hl hlast _)
  | follow hplace hname hshort hlink hlast h ih => exact .link hplace hname hlink (ih hl)
  | enter hplace hname hshort hlink h ih => exact .enter hplace hname hlink (ih hl)

/-- A walk comes to its last name in the directory that the names before it lead to. It ends there,
or goes on through a link of this name. -/
theorem parent (hlast : last ≠ "..") (h : t.Walks followLast links place (names ++ [last]) l) :
    last.utf8ByteSize ≤ longestName ∧ ∃ directory, t.Leads place names directory ∧
      t.at? directory = some .directory ∧
      (l = directory ++ [last] ∨
        followLast = true ∧ ∃ target, t.at? (directory ++ [last]) = some (.link target)) := by
  -- each step goes on to the last name, or takes it
  generalize hall : names ++ [last] = all at h
  induction h generalizing names with
  | here => simp at hall
  | up hplace h ih =>
    cases names with
    | nil => exact absurd (List.cons.inj hall).1 hlast
    | cons name names =>
      obtain ⟨rfl, hrest⟩ := List.cons.inj hall
      obtain ⟨hshort, directory, hleads, hends⟩ := ih hrest
      exact ⟨hshort, directory, .up hplace hleads, hends⟩
  | stop hplace hname hshort hlink hstop =>
    cases names with
    | nil =>
      obtain ⟨rfl, -⟩ := List.cons.inj hall
      exact ⟨hshort, _, .here _, hplace, Or.inl rfl⟩
    | cons name names => simp at hall
  | follow hplace hname hshort hlink hgoes h ih =>
    cases names with
    | nil =>
      obtain ⟨rfl, hrest⟩ := List.cons.inj hall
      exact ⟨hshort, _, .here _, hplace, Or.inr ⟨hgoes hrest.symm, _, hlink⟩⟩
    | cons first names =>
      obtain ⟨rfl, rfl⟩ := List.cons.inj hall
      obtain ⟨hlastShort, directory, hleads, hends⟩ := ih (List.append_assoc _ names [last])
      exact ⟨hlastShort, directory, .link hplace hname hlink hleads, hends⟩
  | enter hplace hname hshort hlink h ih =>
    cases names with
    | nil =>
      obtain ⟨rfl, rfl⟩ := List.cons.inj hall
      cases h
      exact ⟨hshort, _, .here _, hplace, Or.inl rfl⟩
    | cons first names =>
      obtain ⟨rfl, hrest⟩ := List.cons.inj hall
      obtain ⟨hlastShort, directory, hleads, hends⟩ := ih hrest
      exact ⟨hlastShort, directory, .enter hplace hname hlink hleads, hends⟩

/-- What is in the directory where a walk ends is found there, unless it is a link. -/
theorem child (h : t.Walks true links place names l) (hl : t.at? l = some .directory)
    (hname : name ≠ "..") (hshort : name.utf8ByteSize ≤ longestName)
    (hlink : ∀ target, t.at? (l ++ [name]) ≠ some (.link target)) :
    t.Walks true links place (names ++ [name]) (l ++ [name]) := by
  induction h with
  | here place => exact .enter hl hname hshort hlink (.here _)
  | up hplace h ih => exact .up hplace (ih hl hlink)
  | stop hplace hstop hstopShort hstopLink hlast => cases hlast
  | follow hplace hfirst hfirstShort hfirstLink hlast h ih =>
    have hrest := ih hl hlink
    rw [List.append_assoc] at hrest
    exact .follow hplace hfirst hfirstShort hfirstLink (fun _ => rfl) hrest
  | enter hplace hfirst hfirstShort hfirstLink h ih =>
    exact .enter hplace hfirst hfirstShort hfirstLink (ih hl hlink)

end Walks

/-- Names lead to the same place in every tree with the same links in which no directory is gone. -/
theorem Leads.mono {t' : FileTree} {names : List String} (h : t.Leads place names l)
    (hdirectory : ∀ k, t.at? k = some .directory → t'.at? k = some .directory)
    (hlinks : ∀ k target, t.at? k = some (.link target) ↔ t'.at? k = some (.link target)) :
    t'.Leads place names l := by
  induction h with
  | here place => exact .here place
  | up hplace h ih => exact .up (hdirectory _ hplace) ih
  | link hplace hname hlink h ih =>
    exact .link (hdirectory _ hplace) hname ((hlinks _ _).1 hlink) ih
  | enter hplace hname hlink h ih =>
    exact .enter (hdirectory _ hplace) hname
      (fun target htarget => hlink target ((hlinks _ _).2 htarget)) ih

/-- Where names go on, there is a directory. -/
theorem Leads.directory {names : List String} (h : t.Leads place names l) (hnames : names ≠ []) :
    t.at? place = some .directory := by
  cases h with
  | here => exact absurd rfl hnames
  | up hplace => exact hplace
  | link hplace => exact hplace
  | enter hplace => exact hplace

end

/-! ## Growing trees -/

/-- What may come of a place while files are written. -/
inductive Becomes : Option FileEntry → Option FileEntry → Prop where
  | same (entry : Option FileEntry) : Becomes entry entry
  | made : Becomes none (some .directory)
  | written {entry : Option FileEntry} (h : entry ≠ some .directory) (octets : List UInt8) :
      Becomes entry (some (.file octets))

theorem Becomes.trans {a b c : Option FileEntry} (h : Becomes a b) (h' : Becomes b c) :
    Becomes a c := by
  cases h' with
  | same => exact h
  | made =>
    cases h
    exact .made
  | written hb octets =>
    cases h with
    | same => exact .written hb octets
    | made => exact absurd rfl hb
    | written ha => exact .written ha octets

/-- A tree has grown into another: files were written and directories made. -/
structure Grows (t t' : FileTree) : Prop where
  here : t'.here = t.here
  becomes : ∀ l, Becomes (t.at? l) (t'.at? l)

theorem Grows.refl (t : FileTree) : Grows t t := ⟨rfl, fun _ => .same _⟩

theorem Grows.trans {t t' t'' : FileTree} (h : Grows t t') (h' : Grows t' t'') : Grows t t'' :=
  ⟨h'.here.trans h.here, fun l => (h.becomes l).trans (h'.becomes l)⟩

section

variable {t t' : FileTree} {l : Location}

theorem Grows.directory (h : Grows t t') (hl : t.at? l = some .directory) :
    t'.at? l = some .directory := by
  have hbecomes := h.becomes l
  rw [hl] at hbecomes
  generalize hentry : t'.at? l = entry at hbecomes
  cases hbecomes with
  | same => rfl
  | written hne => exact absurd rfl hne

/-- A link was one before. -/
theorem Grows.link (h : Grows t t') {target : String} (hl : t'.at? l = some (.link target)) :
    t.at? l = some (.link target) := by
  have hbecomes := h.becomes l
  rw [hl] at hbecomes
  generalize hentry : t.at? l = entry at hbecomes
  cases hbecomes
  rfl

/-- A directory does not stand where a link or a file was. -/
theorem Grows.directory_or_none (h : Grows t t') (hl : t'.at? l = some .directory) :
    t.at? l = some .directory ∨ t.at? l = none := by
  have hbecomes := h.becomes l
  rw [hl] at hbecomes
  generalize hentry : t.at? l = entry at hbecomes
  cases hbecomes with
  | same => exact Or.inl rfl
  | made => exact Or.inr rfl

end

/-- The same names lead to the same directory in a grown tree, if they lead to one there. -/
theorem Leads.unique {t t' : FileTree} {place l l' : Location} {names : List String}
    (hgrows : Grows t t') (h : t.Leads place names l) (hl : t.at? l = some .directory)
    (h' : t'.Leads place names l') (hl' : t'.at? l' = some .directory) : l' = l := by
  induction h with
  | here place =>
    cases h'
    rfl
  | up hplace h ih =>
    cases h' with
    | up _ h' => exact ih hl h'
    | link _ hname => exact absurd rfl hname
    | enter _ hname => exact absurd rfl hname
  | @link place l name target rest hplace hname hlink h ih =>
    cases h' with
    | up => exact absurd rfl hname
    | @link _ _ _ target' _ _ _ hlink' h' =>
      have hsame := hgrows.link hlink'
      rw [hlink, Option.some.injEq, FileEntry.link.injEq] at hsame
      rw [← hsame] at h'
      exact ih hl h'
    | enter _ _ hlink' h' =>
      -- The link has given way to a file, through which no names lead.
      have hdirectory : t'.at? (place ++ [name]) = some .directory := by
        cases rest with
        | nil =>
          cases h'
          exact hl'
        | cons next rest => exact h'.directory (List.cons_ne_nil next rest)
      rcases hgrows.directory_or_none hdirectory with hbefore | hbefore
      · rw [hlink] at hbefore
        cases hbefore
      · rw [hlink] at hbefore
        cases hbefore
  | @enter place l name rest hplace hname hlink h ih =>
    cases h' with
    | up => exact absurd rfl hname
    | link _ _ hlink' => exact absurd (hgrows.link hlink') (hlink _)
    | enter _ _ _ h' => exact ih hl h'

end ToolBindings.FileTree
