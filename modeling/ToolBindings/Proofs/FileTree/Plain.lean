import ToolBindings.Proofs.FileTree.Writing

/-!
# Trees without links

In a tree without links a path that leads somewhere leads to where its names say
(`Plain.eq_placeOf`), and it still does in another such tree that has the same directories. A change
loses only what stands at the place of its path or, where a directory is removed, below it (`Keeps`),
and makes nothing new elsewhere but directories (`Confined`).
-/

namespace ToolBindings.FileTree

/-- There is no link in the tree. -/
def Plain (t : FileTree) : Prop := ∀ l target, t.at? l ≠ some (.link target)

/-- The place that the names of a path say. -/
def placeOf (t : FileTree) (p : Path) : Location := Path.fold (t.start p) p.names

variable {t t' : FileTree} {place l : Location} {p : Path}

theorem plain_of_entries (h : ∀ e ∈ t.entries, ∀ target, e.2 ≠ .link target) : t.Plain := by
  intro l target hlink
  rw [at?] at hlink
  split at hlink
  · cases hlink
  · exact h _ (Entries.mem_of_get? hlink) target rfl

theorem Plain.grows (h : t.Plain) (hgrows : Grows t t') : t'.Plain :=
  fun l target hlink => h l target (hgrows.link hlink)

theorem Grows.placeOf (h : Grows t t') (p : Path) : t'.placeOf p = t.placeOf p := by
  rw [FileTree.placeOf, FileTree.placeOf, h.start]

theorem placeOf_child (t : FileTree) (p : Path) {name : String} (h : name ≠ "..") :
    t.placeOf (p.child name) = t.placeOf p ++ [name] := by
  rw [placeOf, placeOf, Path.fold, Path.child, List.foldl_append, Path.fold]
  simp only [List.foldl_cons, List.foldl_nil, if_neg h]
  rfl

/-- A path that ends in a name of its own leads there in the directory that its parent leads to. -/
theorem placeOf_eq_append (t : FileTree) (hnamed : p.lastName ≠ "") (hup : p.lastName ≠ "..") :
    t.placeOf p = t.placeOf p.parent ++ [p.lastName] := by
  have hnames : p = p.parent.child p.lastName := by
    rw [Path.child, ← names_eq_append hnamed]
    rfl
  rw [← placeOf_child t p.parent hup, ← hnames]

/-! ## Walking -/

theorem Plain.eq_fold (h : t.Plain) {names : List String} (hleads : t.Leads place names l) :
    l = Path.fold place names := by
  induction hleads with
  | here place => rfl
  | up hplace hrest ih =>
    rw [ih, Path.fold, Path.fold, List.foldl_cons, if_pos rfl]
  | link hplace hname hlink => exact absurd hlink (h _ _)
  | enter hplace hname hlink hrest ih =>
    rw [ih, Path.fold, Path.fold, List.foldl_cons, if_neg hname]

private theorem Plain.walks (h : t.Plain) (h' : t'.Plain)
    (hdirectory : ∀ k, t.at? k = some .directory → t'.at? k = some .directory)
    {followLast followLast' : Bool} {links : Nat} {names : List String}
    (hwalk : t.Walks followLast links place names l) :
    t'.Walks followLast' links place names l := by
  induction hwalk with
  | here place => exact .here place
  | up hplace hwalk ih => exact .up (hdirectory _ hplace) ih
  | stop hplace hname hshort hlink => exact absurd hlink (h _ _)
  | follow hplace hname hshort hlink => exact absurd hlink (h _ _)
  | enter hplace hname hshort hlink hwalk ih =>
    exact .enter (hdirectory _ hplace) hname hshort (h' _) ih

/-- A path leads to the same place in another tree without links that has the same directories. -/
theorem Plain.locate_eq_ok (h : t.Plain) (h' : t'.Plain) (hhere : t'.here = t.here)
    (hdirectory : ∀ k, t.at? k = some .directory → t'.at? k = some .directory)
    {followLast followLast' : Bool} (hlocate : t.locate followLast p = .ok l) :
    t'.locate followLast' p = .ok l := by
  obtain ⟨hnul, hshort, hwalk⟩ := FileTree.locate_eq_ok.1 hlocate
  have hstart : t'.start p = t.start p := by rw [start, start, hhere]
  refine FileTree.locate_eq_ok.2 ⟨hnul, hshort, ?_⟩
  rw [hstart]
  exact walk_eq_ok.2 (h.walks h' hdirectory (walk_eq_ok.1 hwalk))

/-- A path leads to where its names say. -/
theorem Plain.eq_placeOf (h : t.Plain) {followLast : Bool}
    (hlocate : t.locate followLast p = .ok l) : l = t.placeOf p :=
  h.eq_fold ((walks_of_locate hlocate).leads fun _ => h l)

/-- A path that leads somewhere is usable, if it ends in a name of its own. -/
theorem Plain.usable (h : t.Plain) {followLast : Bool} (hlocate : t.locate followLast p = .ok l)
    (hnamed : p.lastName ≠ "") (hup : p.lastName ≠ "..") : p.Usable := by
  have hfalse : t.locate false p = .ok l := h.locate_eq_ok h rfl (fun _ hk => hk) hlocate
  obtain ⟨hnul, hshort, hwalk⟩ := FileTree.locate_eq_ok.1 hfalse
  rw [names_eq_append hnamed] at hwalk
  exact ⟨hnul, hshort, hnamed, hup, ((walk_eq_ok.1 hwalk).parent hup).1⟩

theorem Plain.isDirectory_eq_true (h : t.Plain) :
    t.isDirectory p = .ok true ↔
      t.locate true p = .ok (t.placeOf p) ∧ t.at? (t.placeOf p) = some .directory := by
  rw [FileTree.isDirectory_eq_true]
  constructor
  · rintro ⟨l, hlocate, hl⟩
    obtain rfl := h.eq_placeOf hlocate
    exact ⟨hlocate, hl⟩
  · exact fun ⟨hlocate, hl⟩ => ⟨_, hlocate, hl⟩

theorem Plain.read_eq_ok (h : t.Plain) {octets : List UInt8} :
    t.read p = .ok octets ↔
      t.locate true p = .ok (t.placeOf p) ∧ t.at? (t.placeOf p) = some (.file octets) := by
  rw [FileTree.read_eq_ok]
  constructor
  · rintro ⟨l, hlocate, hl⟩
    obtain rfl := h.eq_placeOf hlocate
    exact ⟨hlocate, hl⟩
  · exact fun ⟨hlocate, hl⟩ => ⟨_, hlocate, hl⟩

theorem Plain.isDirectory_grows (h : t.Plain) (hgrows : Grows t t')
    (hp : t.isDirectory p = .ok true) : t'.isDirectory p = .ok true := by
  obtain ⟨l, hlocate, hl⟩ := FileTree.isDirectory_eq_true.1 hp
  have hlocate' : t'.locate true p = .ok l :=
    h.locate_eq_ok (h.grows hgrows) hgrows.here (fun k => hgrows.directory) hlocate
  exact FileTree.isDirectory_eq_true.2 ⟨l, hlocate', hgrows.directory hl⟩

/-- A file is read as before where the tree has grown and what stands at its place is the same. -/
theorem Plain.read_grows (h : t.Plain) (hgrows : Grows t t')
    (hsame : t'.at? (t.placeOf p) = t.at? (t.placeOf p)) {octets : List UInt8}
    (hread : t.read p = .ok octets) : t'.read p = .ok octets := by
  obtain ⟨hlocate, hfile⟩ := h.read_eq_ok.1 hread
  have hplain := h.grows hgrows
  refine hplain.read_eq_ok.2 ?_
  rw [hgrows.placeOf, hsame]
  exact ⟨h.locate_eq_ok hplain hgrows.here (fun _ => hgrows.directory) hlocate, hfile⟩

/-- What is present in a tree without links is a file that is read or a directory. -/
theorem Plain.read_or_isDirectory_of_isPresent (h : t.Plain) (hpresent : t.isPresent p = .ok true) :
    (∃ octets, t.read p = .ok octets) ∨ t.isDirectory p = .ok true := by
  obtain ⟨l, hlocate, hl⟩ := isPresent_eq_true.1 hpresent
  obtain ⟨entry, hentry⟩ := Option.ne_none_iff_exists'.1 hl
  cases entry with
  | file octets => exact Or.inl ⟨octets, FileTree.read_eq_ok.2 ⟨l, hlocate, hentry⟩⟩
  | directory => exact Or.inr (FileTree.isDirectory_eq_true.2 ⟨l, hlocate, hentry⟩)
  | link target => exact absurd hentry (h l target)

theorem isPresent_of_read {octets : List UInt8} (h : t.read p = .ok octets) :
    t.isPresent p = .ok true := by
  obtain ⟨l, hlocate, hl⟩ := read_eq_ok.1 h
  exact isPresent_eq_true.2 ⟨l, hlocate, by simp [hl]⟩

/-! ## Writing -/

/-- A file that was written is in a directory. -/
theorem Plain.isDirectory_of_writeAtomic (h : t.Plain) {tag text : String}
    (hwritten : t.writeAtomic tag p text = (t', .ok ())) : t'.isDirectory p.parent = .ok true := by
  obtain ⟨-, made, directory, hmade, hgrows, -⟩ := writeAtomic_ok hwritten
  have hplain := h.grows (onlyDirectories_makeDirectories hmade).grows
  exact hplain.isDirectory_grows hgrows (isDirectory_of_makeDirectories hmade)

/-- A file that was written is read. -/
theorem Plain.read_of_writeAtomic (h : t.Plain) {tag text : String}
    (hwritten : t.writeAtomic tag p text = (t', .ok ())) :
    t'.read p = .ok (Text.Utf8.encode text) :=
  (written_writeAtomic hwritten).read (h.isDirectory_of_writeAtomic hwritten)

/-! ## What is kept -/

/-- A tree without links keeps what stands at the places that are not lost, and gets no links. -/
structure Keeps (lost : Location → Prop) (t t' : FileTree) : Prop where
  here : t'.here = t.here
  plain : t'.Plain
  at? : ∀ l, ¬lost l → t.at? l ≠ none → t'.at? l = t.at? l

/-- A tree without links stays what it was at the places that are not lost, but for new directories,
and gets no links. -/
structure Confined (lost : Location → Prop) (t t' : FileTree) : Prop where
  here : t'.here = t.here
  plain : t'.Plain
  at? : ∀ l, ¬lost l → t'.at? l = t.at? l ∨ (t.at? l = none ∧ t'.at? l = some .directory)

section

variable {lost lost' : Location → Prop}

theorem Confined.keeps (h : Confined lost t t') : Keeps lost t t' := by
  refine ⟨h.here, h.plain, fun l hl hsome => ?_⟩
  rcases h.at? l hl with hsame | ⟨hnone, -⟩
  · exact hsame
  · exact absurd hnone hsome

theorem Confined.trans {t'' : FileTree} (h : Confined lost t t') (h' : Confined lost t' t'') :
    Confined lost t t'' := by
  refine ⟨h'.here.trans h.here, h'.plain, fun l hl => ?_⟩
  rcases h'.at? l hl with hsame | ⟨hnone, hmade⟩
  · rw [hsame]
    exact h.at? l hl
  · rcases h.at? l hl with hbefore | ⟨-, hbefore⟩
    · exact Or.inr ⟨hbefore ▸ hnone, hmade⟩
    · rw [hbefore] at hnone
      cases hnone

theorem Confined.mono (h : Confined lost t t') (hlost : ∀ l, lost l → lost' l) :
    Confined lost' t t' :=
  ⟨h.here, h.plain, fun l hl => h.at? l fun hmem => hl (hlost l hmem)⟩

theorem Keeps.mono (h : Keeps lost t t') (hlost : ∀ l, lost l → lost' l) : Keeps lost' t t' :=
  ⟨h.here, h.plain, fun l hl => h.at? l fun hmem => hl (hlost l hmem)⟩

theorem Keeps.placeOf (h : Keeps lost t t') (p : Path) : t'.placeOf p = t.placeOf p := by
  rw [FileTree.placeOf, FileTree.placeOf, start, start, h.here]

theorem OnlyDirectories.confined (h : OnlyDirectories t t') (hplain : t.Plain)
    (lost : Location → Prop) : Confined lost t t' :=
  ⟨h.here, hplain.grows h.grows, fun l _ => h.at? l⟩

end

section

variable {lost : Location → Prop} {name : String}

/-- What is in a directory that is still there is still found. -/
theorem Keeps.locate_child (h : Keeps lost t t') (ht : t.Plain) (hname : name ≠ "")
    (hup : name ≠ "..") (hparent : t'.isDirectory p = .ok true)
    (hlocate : t.locate true (p.child name) = .ok l) : t'.locate true (p.child name) = .ok l := by
  obtain ⟨hlocate', hdirectory⟩ := h.plain.isDirectory_eq_true.1 hparent
  have husable : (p.child name).Usable := ht.usable hlocate (by simpa) (by simpa)
  have hplace : l = t'.placeOf p ++ [(p.child name).lastName] := by
    rw [ht.eq_placeOf hlocate, t.placeOf_child p hup, h.placeOf, Path.lastName_child]
  rw [hplace]
  exact FileTree.locate_child husable (by rwa [Path.parent_child]) hdirectory (h.plain _)

theorem Keeps.isDirectory_child (h : Keeps lost t t') (ht : t.Plain) (hname : name ≠ "")
    (hup : name ≠ "..") (hparent : t'.isDirectory p = .ok true)
    (hlost : ¬lost (t.placeOf (p.child name))) (hchild : t.isDirectory (p.child name) = .ok true) :
    t'.isDirectory (p.child name) = .ok true := by
  obtain ⟨hlocate, hdirectory⟩ := ht.isDirectory_eq_true.1 hchild
  refine h.plain.isDirectory_eq_true.2 ?_
  rw [h.placeOf, h.at? _ hlost (by simp [hdirectory])]
  exact ⟨h.locate_child ht hname hup hparent hlocate, hdirectory⟩

/-- A file in a directory that is still there is read as before. -/
theorem Keeps.read_child (h : Keeps lost t t') (ht : t.Plain) (hname : name ≠ "")
    (hup : name ≠ "..") (hparent : t'.isDirectory p = .ok true)
    (hlost : ¬lost (t.placeOf (p.child name))) {octets : List UInt8}
    (hread : t.read (p.child name) = .ok octets) : t'.read (p.child name) = .ok octets := by
  obtain ⟨hlocate, hfile⟩ := ht.read_eq_ok.1 hread
  refine h.plain.read_eq_ok.2 ?_
  rw [h.placeOf, h.at? _ hlost (by simp [hfile])]
  exact ⟨h.locate_child ht hname hup hparent hlocate, hfile⟩

end

/-- Writing a file, whatever comes of it, changes only what stands at its place. -/
theorem Plain.confined_writeAtomic (h : t.Plain) (tag text : String) (p : Path) :
    Confined (· = t.placeOf p) t (t.writeAtomic tag p text).1 := by
  rcases hwritten : t.writeAtomic tag p text with ⟨t', e | done⟩
  · exact (writeAtomic_error hwritten).confined h _
  · dsimp only
    obtain ⟨husable, made, directory, hmade, hgrows, hleads, -, -, hframe⟩ := writeAtomic_ok hwritten
    have honly := onlyDirectories_makeDirectories hmade
    have hparent : directory = t.placeOf p.parent := by
      have hfold := (h.grows honly.grows).eq_fold hleads
      rwa [honly.grows.start] at hfold
    have hplace : t.placeOf p = directory ++ [p.lastName] := by
      rw [hparent, ← placeOf_eq_append t husable.named husable.notUp]
    have hall := grows_writeAtomic hwritten
    refine ⟨hall.here, h.grows hall, fun l hl => ?_⟩
    rw [hplace] at hl
    exact hframe l hl

/-- The root is never gone. -/
theorem at?_eraseBelow (k : Location) :
    (t.eraseBelow l).at? k = if k ≠ [] ∧ l <+: k then none else t.at? k := by
  rw [at?, at?, eraseBelow]
  by_cases hk : k = []
  · rw [if_pos hk, if_pos hk, if_neg fun h => h.1 hk]
  · rw [if_neg hk, if_neg hk, Entries.get?_filter fun k => !l.isPrefixOf k]
    by_cases hbelow : l <+: k
    · simp [hk, hbelow, List.isPrefixOf_iff_prefix.2 hbelow]
    · have hnot : l.isPrefixOf k = false := by
        rwa [Bool.eq_false_iff, ne_eq, List.isPrefixOf_iff_prefix]
      simp [hbelow, hnot]

/-- Removing a file changes only what stands at its place. -/
theorem Plain.confined_removeFile (h : t.Plain) (hremoved : t.removeFile p = .ok t') :
    Confined (t.placeOf p <+: ·) t t' := by
  obtain ⟨location, hlocate, -, hdirectory, rfl⟩ := removeFile_eq_ok.1 hremoved
  obtain rfl := h.eq_placeOf hlocate
  refine ⟨rfl, fun l target => ?_, fun l hl => Or.inl ?_⟩
  · rw [at?_eraseEntry (ne_nil_of_at? hdirectory)]
    split
    · simp
    · exact h l target
  · rw [at?_eraseEntry (ne_nil_of_at? hdirectory), if_neg]
    rintro rfl
    exact hl (List.prefix_refl _)

/-- Removing a directory changes only what stands at its place and below it. -/
theorem Plain.confined_removeTree (h : t.Plain) (hremoved : t.removeTree p = .ok t') :
    Confined (t.placeOf p <+: ·) t t' := by
  obtain ⟨location, hlocate, -, rfl⟩ := removeTree_eq_ok.1 hremoved
  obtain rfl := h.eq_placeOf hlocate
  refine ⟨rfl, fun l target => ?_, fun l hl => Or.inl ?_⟩
  · rw [at?_eraseBelow]
    split
    · simp
    · exact h l target
  · rw [at?_eraseBelow, if_neg]
    exact fun hbelow => hl hbelow.2

end ToolBindings.FileTree
