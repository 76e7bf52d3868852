import ToolBindings.Proofs.Binding.Import
import ToolBindings.Proofs.Binding.Table
import ToolBindings.Proofs.Command.Planned
import ToolBindings.Proofs.FileTree.Writing
import ToolBindings.Proofs.Source.ToolModule
import ToolBindings.Proofs.Source.ToolsetModule
import ToolBindings.Proofs.Text.Utf8

/-!
# Imported modules

What the module of a descriptor gives when it is imported. Where it stands as it was written and
nothing comes before it (`Importer.Clear`), an import of it is a class with the key of the descriptor
(`loadImport_ok`), and the class is found under its key (`find?_of_clear`).
-/

namespace ToolBindings

/-- The dotted name of a made class ends in the class, and has no blank in it if the namespace has
none. -/
theorem Descriptor.Made.plain_classImport {g : GeneratedSettings} {d : Descriptor} (hmade : d.Made g)
    (hblank : ∀ c ∈ (trimDots g.namespaceName).toList, c ≠ ' ' ∧ c ≠ '\n') :
    d.classImport.Plain := by
  have hidentifier := hmade.named.isIdentifier
  have hpackage := Name.isIdentifier_package d.server
  have halphanum {c : Char} (hc : c.isAlphanum = true) : c ≠ ' ' ∧ c ≠ '\n' := by
    constructor <;>
    · rintro rfl
      revert hc
      decide
  have hdot {c : Char} (hc : c ∈ ".".toList) : c ≠ ' ' ∧ c ≠ '\n' := by
    rw [List.mem_singleton.1 hc]
    decide
  refine ⟨fun c hc => ?_, fun c hc => hidentifier.isNameChar c hc⟩
  rw [Descriptor.classImport, hmade.module, GeneratedSettings.className, dottedName] at hc
  simp only [String.toList_append, List.mem_append, or_assoc] at hc
  rcases hc with hc | hc | hc | hc | hc
  · exact hblank c hc
  · exact hdot hc
  · exact halphanum (hpackage.isAlphanum c hc)
  · exact hdot hc
  · exact halphanum (hidentifier.isAlphanum c hc)

namespace Importer

variable {importer : Importer} {g : GeneratedSettings} {d : Descriptor}

/-- Nothing comes before the package and the module of a descriptor under their names. -/
structure Clear (importer : Importer) (g : GeneratedSettings) (d : Descriptor) : Prop where
  package : importer.lookUp g.base (Name.package d.server)
    = some (.package (g.packagePath d.server))
  module : importer.lookUp (g.packagePath d.server) d.className
    ≠ some (.package ((g.packagePath d.server).child d.className))

/-- The module of a descriptor is read where it was written, if nothing comes before its package. -/
theorem Clear.read (h : importer.Clear g d) (hmade : d.Made g)
    (hwritten : importer.files.Written d.path d.source) :
    importer.files.read d.path = .ok (Text.Utf8.encode d.source) := by
  refine hwritten.read ?_
  rw [hmade.path, GeneratedSettings.classPath, Path.parent_child]
  exact (lookUp_package h.package).2

/-- A module that can be read is found if nothing comes before it. -/
theorem Clear.finds (h : importer.Clear g d) (hmade : d.Made g) {octets : List UInt8}
    (hread : importer.files.read d.path = .ok octets) : importer.Finds g d.server d.className := by
  rw [hmade.path] at hread
  exact ⟨h.package, lookUp_of_isFile (FileTree.isFile_eq_true.2 ⟨_, hread⟩) h.module⟩

theorem Finds.clear (h : importer.Finds g d.server d.className) : importer.Clear g d := by
  refine ⟨h.package, ?_⟩
  rw [h.module]
  exact nofun

theorem textOf_eq_ok {path : Path} {text : String}
    (h : importer.files.read path = .ok (Text.Utf8.encode text)) :
    importer.textOf path = .ok text := by
  rw [textOf, h]
  simp [Except.toOption]

theorem ok_bind {α β ε : Type} (a : α) (f : α → Except ε β) : (Except.ok a >>= f) = f a :=
  rfl

/-- A module with a text is what this text reads as. -/
theorem loadTool_eq {dotted text : String} {path : Path}
    (hlocate : importer.locate dotted = .ok (.file path))
    (htext : importer.textOf path = .ok text) :
    importer.loadTool dotted = match ToolModule.read? text with
      | some m => .ok (.ofModule dotted m)
      | none => .error .badSource := by
  rw [loadTool, hlocate, ok_bind]
  dsimp only
  rw [htext, ok_bind]
  cases ToolModule.read? text <;> rfl

/-- What is imported under a dotted name with a text that binds a tool. -/
theorem load_eq_tool {dotted text : String} {path : Path} {m : ToolModule}
    (hlocate : importer.locate dotted = .ok (.file path))
    (htext : importer.textOf path = .ok text) (hread : ToolModule.read? text = some m) :
    importer.load dotted = .ok (.tool (.ofModule dotted m)) := by
  rw [load, hlocate, ok_bind]
  dsimp only
  rw [htext, ok_bind, hread]
  rfl

/-- A module that is missing is not found where its dotted name is followed. -/
theorem missing_of_loadTool {dotted missing : String}
    (h : importer.loadTool dotted = .error (.missing missing)) :
    importer.locate dotted = .error (.missing missing) := by
  cases hlocate : importer.locate dotted with
  | error fault =>
    rw [loadTool, hlocate] at h
    cases h
    rfl
  | ok place =>
    cases place with
    | package directory =>
      rw [loadTool, hlocate] at h
      cases h
    | file path =>
      cases htext : importer.textOf path with
      | error fault =>
        rw [loadTool, hlocate, ok_bind] at h
        dsimp only at h
        rw [htext] at h
        cases h
        rw [textOf] at htext
        split at htext <;> cases htext
      | ok text =>
        rw [loadTool_eq hlocate htext] at h
        split at h <;> cases h

section

variable (hserves : importer.Serves g)

include hserves

/-- The dotted name of a made class has no blank in it. -/
theorem plain_classImport (hmade : d.Made g) : d.classImport.Plain := by
  refine hmade.plain_classImport fun c hc => ?_
  by_cases hc' : c = '.'
  · rw [hc']
    decide
  · obtain ⟨piece, hpiece, hmem⟩ := Text.mem_piece_of_ne hc hc'
    have hname := hserves.names _ (List.mem_map_of_mem hpiece)
    exact not_blank_of_nameOf? (Option.isSome_of_mem hname) (by rwa [String.toList_ofList])

/-- The import of a made class means the dotted name that it gives. -/
theorem meant?_module (hmade : d.Made g) (package : List String) :
    meant? importer.rule package d.module = some d.module := by
  have hidentifier := hmade.named.isIdentifier
  have hpackage := Name.isIdentifier_package d.server
  have hnames : namesOf d.module
      = namesOf (trimDots g.namespaceName) ++ [Name.package d.server] ++ [d.className] := by
    rw [hmade.module, GeneratedSettings.className, namesOf_dottedName _ hpackage hidentifier]
  have hread : ∀ name ∈ namesOf d.module, importer.rule.nameOf? name = some name := by
    rw [hnames]
    simp only [List.mem_append, List.mem_singleton]
    rintro name ((hname | rfl) | rfl)
    · exact hserves.names name hname
    · exact nameOf?_of_isIdentifier _ hpackage
    · exact nameOf?_of_isIdentifier _ hidentifier
  rw [meant?]
  split
  · rename_i names hrelative
    have hempty := hread "" (hrelative ▸ List.mem_cons_self)
    rw [nameOf?_empty] at hempty
    cases hempty
  · rw [mapM_nameOf? hread, Option.map_some, joinWith_namesOf]

/-- A module that loads is found. -/
theorem finds_of_loadTool (hmade : d.Made g) {c : ToolClass}
    (h : importer.loadTool d.module = .ok c) : importer.Finds g d.server d.className := by
  rw [loadTool] at h
  cases hlocate : importer.locate d.module with
  | error fault =>
    rw [hlocate] at h
    cases h
  | ok place =>
    rw [hlocate] at h
    cases place with
    | package directory => cases h
    | file path =>
      rw [hmade.module] at hlocate
      exact ((hserves.locate_className_eq_file hmade.named.isIdentifier).1 hlocate).1

/-- A module that is found and reads as what was written is a class with the key of its descriptor,
however it is imported. -/
theorem load_of_finds (hmade : d.Made g)
    (hread : importer.files.read d.path = .ok (Text.Utf8.encode d.source))
    (h : importer.Finds g d.server d.className) :
    ∃ c, importer.loadTool d.module = .ok c ∧ importer.load d.module = .ok (.tool c) ∧
      c.key = d.key := by
  obtain ⟨description, schemaText, hsource⟩ := hmade.source
  have hchars : ∀ c ∈ d.className.toList, Literal.isNameChar c = true :=
    (plain_classImport hserves hmade).className
  have hmodule := ToolModule.read?_write hchars d.server d.tool description schemaText
  rw [← hsource] at hmodule
  have hlocate : importer.locate d.module = .ok (.file d.path) := by
    rw [hmade.module, hmade.path]
    exact (hserves.locate_className_eq_file hmade.named.isIdentifier).2 ⟨h, rfl⟩
  have htext := textOf_eq_ok hread
  refine ⟨_, ?_, load_eq_tool hlocate htext hmodule, ?_⟩
  · rw [loadTool_eq hlocate htext, hmodule]
  · rfl

/-- The import of a made class loads exactly if nothing comes before its module, and then it is a
class with the key of the descriptor. -/
theorem loadImport_ok (hmade : d.Made g) (hwritten : importer.files.Written d.path d.source)
    (package : List String) :
    ((∃ c, importer.loadImport package d.classImport = .ok c) ↔ importer.Clear g d) ∧
      ∀ c, importer.loadImport package d.classImport = .ok c → c.key = d.key := by
  have hmeant : meant? importer.rule package d.classImport.module = some d.module := meant?_module hserves hmade _
  have hfinds {c : ToolClass} (h : importer.loadImport package d.classImport = .ok c) :
      importer.Finds g d.server d.className := by
    rw [loadImport, hmeant] at h
    cases hload : importer.loadTool d.module with
    | error fault =>
      simp only [hload, bind, Except.bind] at h
      cases h
    | ok c => exact finds_of_loadTool hserves hmade hload
  have hloads (h : importer.Finds g d.server d.className) :
      ∃ c, importer.loadImport package d.classImport = .ok c ∧ c.key = d.key := by
    obtain ⟨c, hload, -, hkey⟩ :=
      load_of_finds hserves hmade (h.clear.read hmade hwritten) h
    have hclass : c.className = d.classImport.className := congrArg BindingKey.className hkey
    refine ⟨c, ?_, hkey⟩
    rw [loadImport, hmeant]
    simp only [hload, bind, Except.bind, if_pos hclass]
    rfl
  refine ⟨⟨fun ⟨c, hc⟩ => (hfinds hc).clear, fun hclear => ?_⟩, ?_⟩
  · obtain ⟨c, hload, -⟩ := hloads (hclear.finds hmade (hclear.read hmade hwritten))
    exact ⟨c, hload⟩
  · intro c hc
    obtain ⟨c', hload, hkey⟩ := hloads (hfinds hc)
    rw [hc] at hload
    cases hload
    exact hkey

/-- An import that misses a module fails where its dotted name is followed. -/
theorem missing_of_loadImport {package : List String} {missing : String} (hmade : d.Made g)
    (h : importer.loadImport package d.classImport = .error (.missing missing)) :
    importer.locate d.module = .error (.missing missing) := by
  have hmeant : meant? importer.rule package d.classImport.module = some d.module :=
    meant?_module hserves hmade _
  rw [loadImport, hmeant] at h
  cases hload : importer.loadTool d.module with
  | error fault =>
    simp only [hload, bind, Except.bind, Except.error.injEq] at h
    exact missing_of_loadTool (h ▸ hload)
  | ok c =>
    simp only [hload, bind, Except.bind] at h
    split at h <;> cases h

/-- A class is found for the key of a descriptor whose module reads as what was written, whatever
table it is looked up in, if nothing comes before the module and the descriptor names a server and a
tool. -/
theorem find?_of_clear (hmade : d.Made g)
    (hread : importer.files.read d.path = .ok (Text.Utf8.encode d.source))
    (hclear : importer.Clear g d) (hserver : d.server ≠ "") (htool : d.tool ≠ "")
    (table : BindingTable) :
    ∃ c table', table.find? importer d.key d.module = .ok (some c, table') ∧ c.key = d.key := by
  cases hget : table.get? d.key with
  | some c =>
    exact ⟨c, table, BindingTable.find?_eq_some.2 (.inl ⟨hget, rfl⟩), BindingTable.key_of_get? hget⟩
  | none =>
    obtain ⟨c, -, hload, hkey⟩ := load_of_finds hserves hmade hread (hclear.finds hmade hread)
    have hserver' : c.server = d.server := congrArg BindingKey.server hkey
    have htool' : c.tool = d.tool := congrArg BindingKey.tool hkey
    have hbinding : c.IsBinding := ⟨hserver' ▸ hserver, htool' ▸ htool⟩
    have hfound : importer.load? d.module = .ok (some (.tool c)) := by rw [load?, hload]
    exact ⟨c, _, BindingTable.find?_eq_some.2 (.inr ⟨hget, hfound, hkey, hbinding, rfl⟩), hkey⟩

end

end Importer
end ToolBindings
