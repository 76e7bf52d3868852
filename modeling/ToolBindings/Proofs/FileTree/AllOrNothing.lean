import ToolBindings.Proofs.FileTree.Gone
import ToolBindings.Proofs.Text.Utf8

/-!
# Writing all or nothing

Writing a text to a path either puts the whole text into the directory that the path leads to or puts
nothing anywhere, and apart from the text only directories above the path are new, which were missing
(`allOrNothing_writeAtomic`). The path then reads the text, unless it has led through the link that
gave way to the text.
-/

namespace ToolBindings.FileTree

variable {t t' between : FileTree} {directory : Location} {p : Path} {tag text : String}

/-- The text of the file that a path leads to. -/
def readText? (t : FileTree) (p : Path) : Option String :=
  (t.read p).toOption.bind Text.Utf8.decode?

/-- What comes of writing a text to a path: either there are at most new directories above the path,
or the text stands in the directory that the path leads to as well. -/
inductive AllOrNothing (t : FileTree) (p : Path) (text : String) :
    FileTree × Except FileError Unit → Prop where
  | nothing {t' : FileTree} (e : FileError) (made : MadeAbove p.parent t t') :
      AllOrNothing t p text (t', .error e)
  | all {between t' : FileTree} {directory : Location} (made : MadeAbove p.parent t between)
      (parent : between.locate true p.parent = .ok directory)
      (isDirectory : between.at? directory = some .directory)
      (free : between.at? (directory ++ [p.lastName]) ≠ some .directory)
      (here : t'.here = between.here)
      (put : ∀ l, t'.at? l =
        if directory ++ [p.lastName] = l then some (.file (Text.Utf8.encode text))
        else between.at? l)
      (reads : t'.readText? p = some text ↔
        ¬between.Meets (· = directory ++ [p.lastName]) p.parent) :
      AllOrNothing t p text (t', .ok ())

/-- Where a file has come to stand at the end of a path, nothing can be read through its place. -/
theorem not_meets_of_read (hnamed : p.lastName ≠ "") (hhere : t'.here = between.here)
    {octets : List UInt8} (hput : ∀ l, t'.at? l =
      if directory ++ [p.lastName] = l then some (.file octets) else between.at? l)
    (hread : t'.readText? p = some text) :
    ¬between.Meets (· = directory ++ [p.lastName]) p.parent := by
  intro hmeets
  have hplace : t'.at? (directory ++ [p.lastName]) = some (.file octets) := by
    rw [hput, if_pos rfl]
  have hsame (k : Location) (hk : ¬k = directory ++ [p.lastName]) : t'.at? k = between.at? k := by
    rw [hput, if_neg (Ne.symm hk)]
  obtain ⟨l, hlocate⟩ : ∃ l, t'.locate true p = .ok l := by
    rw [readText?, read] at hread
    split at hread
    · cases hread
    · exact ⟨_, ‹_›⟩
  have hwalk := walks_of_locate hlocate
  rw [names_eq_append hnamed, start, hhere] at hwalk
  -- the way goes on by the last name, but a file is in its way
  have hstop := stops_of_walkMeets hsame (by rintro k rfl; simp [hplace])
    (by rintro k target rfl; simp [hplace]) hmeets hwalk
  exact List.cons_ne_nil _ _ hstop.1

/-- Writing a text puts the whole text in the directory that its path leads to, or nothing. -/
theorem allOrNothing_writeAtomic (t : FileTree) (tag : String) (p : Path) (text : String) :
    AllOrNothing t p text (t.writeAtomic tag p text) := by
  rcases hwritten : t.writeAtomic tag p text with ⟨t', e | done⟩
  · exact .nothing e (writeAtomic_madeAbove hwritten)
  · obtain ⟨husable, between, directory, hmade, hgrows, hleads, hdirectory, hput⟩ :=
      writeAtomic_made hwritten
    have hparent : between.locate true p.parent = .ok directory := by
      obtain ⟨l, hlocate, hl⟩ := isDirectory_eq_true.1 (isDirectory_of_makeDirectories hmade)
      have hsame : l = directory := hleads.unique (Grows.refl between) hdirectory
        ((walks_of_locate hlocate).leads nofun) hl
      rw [hlocate, hsame]
    have hfree : between.at? (directory ++ [p.lastName]) ≠ some .directory := by
      intro hthere
      have hkept := hgrows.directory hthere
      rw [hput, if_pos rfl] at hkept
      cases hkept
    refine .all (madeAbove_makeDirectories hmade) hparent hdirectory hfree hgrows.here hput ?_
    constructor
    · exact not_meets_of_read husable.named hgrows.here hput
    · intro hmeets
      have hsame (k : Location) (hk : ¬k = directory ++ [p.lastName]) :
          t'.at? k = between.at? k := by
        rw [hput, if_neg (Ne.symm hk)]
      have hlocate : t'.locate true p.parent = .ok directory := by
        rw [locate_congr hgrows.here hsame hmeets, hparent]
      have hread := (written_writeAtomic hwritten).read
        (isDirectory_eq_true.2 ⟨directory, hlocate, hgrows.directory hdirectory⟩)
      rw [readText?, hread]
      exact Text.Utf8.decode?_encode text

/-- A link to the directory that it is in. -/
def loopTree : FileTree := ⟨[(["L"], .link ".")], []⟩

/-- The path through the link to the link. -/
def loopPath : Path := ⟨"", ["L", "L"]⟩

private theorem writeAtomic_loopTree : loopTree.writeAtomic "x" loopPath "one"
    = (⟨[(["L"], .file (Text.Utf8.encode "one"))], []⟩, .ok ()) := by
  have hparent : loopPath.parent = ⟨"", ["L"]⟩ := rfl
  have hmade : loopTree.makeDirectories ⟨"", ["L"]⟩ = (loopTree, .ok ()) := by
    rw [makeDirectories]
    rfl
  rw [writeAtomic, reserve, hparent, hmade]
  rfl

/-- A text that takes the place of a link on its way is not read back. -/
theorem unread_loopTree : (loopTree.writeAtomic "x" loopPath "one").2 = .ok () ∧
    (loopTree.writeAtomic "x" loopPath "one").1.readText? loopPath ≠ some "one" := by
  rw [writeAtomic_loopTree]
  refine ⟨rfl, ?_⟩
  have hnone : FileTree.readText? ⟨[(["L"], .file (Text.Utf8.encode "one"))], []⟩ loopPath = none :=
    rfl
  simp [hnone]

end ToolBindings.FileTree
