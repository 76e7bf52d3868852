import ToolBindings.Binding.Import
import ToolBindings.Command.Plan
import ToolBindings.Proofs.Name.Identifier
import ToolBindings.Proofs.Text.Scan

/-!
# Where generated modules are found

Dotted names are followed name by name (`follow_append`). Where the namespace is a name that can be
imported and leads to the directory of generated files (`Importer.Serves`), the aggregate and the
classes of servers are looked up in this directory and in the packages there, and they are found
unless a package of the same name comes before them.
-/

namespace ToolBindings

namespace Importer

variable {importer : Importer} {directory inner path : Path} {name : String}

/-! ## Names -/

theorem namesOf_append (a b : String) : namesOf (a ++ "." ++ b) = namesOf a ++ namesOf b := by
  have htext : (a ++ "." ++ b).toList = a.toList ++ '.' :: b.toList := by simp
  rw [namesOf, htext, Text.splitOn_append, List.map_append]
  rfl

theorem namesOf_ne_nil (dotted : String) : namesOf dotted ≠ [] := by
  rw [namesOf, ne_eq, List.map_eq_nil_iff]
  exact Text.splitOn_ne_nil '.' dotted.toList

/-- The names of a dotted name make it up again. -/
theorem joinWith_namesOf (dotted : String) : Text.joinWith "." (namesOf dotted) = dotted := by
  refine String.toList_inj.1 ?_
  rw [Text.joinWith, String.toList_intercalate, namesOf, List.map_map]
  have hpieces : (Text.splitOn '.' dotted.toList).map (String.toList ∘ String.ofList)
      = Text.splitOn '.' dotted.toList := by simp [Function.comp_def]
  rw [hpieces]
  exact Text.intercalate_splitOn '.' dotted.toList

theorem not_dot_of_isIdentifier (h : Name.IsIdentifier name) {c : Char} (hc : c ∈ name.toList) :
    c ≠ '.' := by
  rintro rfl
  have hchar := h.isAlphanum '.' hc
  revert hchar
  decide

theorem namesOf_of_isIdentifier (h : Name.IsIdentifier name) : namesOf name = [name] := by
  have hdot : '.' ∉ name.toList := fun hmem => not_dot_of_isIdentifier h hmem rfl
  rw [namesOf, Text.splitOn_of_not_mem hdot]
  simp

/-- The names of the full name of a class. -/
theorem namesOf_dottedName (namespaceName : String) {package : String}
    (hpackage : Name.IsIdentifier package) (h : Name.IsIdentifier name) :
    namesOf (dottedName namespaceName package name) = namesOf namespaceName ++ [package] ++ [name] := by
  rw [dottedName, namesOf_append, namesOf_append, namesOf_of_isIdentifier hpackage,
    namesOf_of_isIdentifier h]

/-- Identifiers of letters and digits stand for themselves under every rule. -/

theorem nameOf?_of_isIdentifier (rule : NameRule) (h : Name.IsIdentifier name) :
    rule.nameOf? name = some name := by
  obtain ⟨c, rest, hname, hc⟩ := h.startsWithLetter
  have hascii : name.toList.all (·.toNat < 128) = true :=
    List.all_eq_true.2 fun d hd =>
      decide_eq_true (Nat.lt_of_le_of_lt (Text.toNat_of_isAlphanum (h.isAlphanum d hd)).2 (by decide))
  have hrest : ∀ d ∈ rest, d.isAlphanum = true := fun d hd =>
    h.isAlphanum d (hname ▸ List.mem_cons_of_mem c hd)
  have hkeyword : Name.keywords.contains name = false := by
    simpa using h.notKeyword
  have hidentifier : isIdentifier (fun _ => false) name = true := by
    simp only [isIdentifier, hname, hc, hkeyword, Bool.true_or, Bool.true_and, Bool.not_false,
      Bool.and_true, List.all_eq_true]
    intro d hd
    rw [hrest d hd]
    rfl
  rw [rule.ascii name hascii, if_pos hidentifier]

/-- An empty text is no name. -/
theorem nameOf?_empty (rule : NameRule) : rule.nameOf? "" = none := by
  rw [rule.ascii "" rfl]
  rfl

/-- Names that stand for themselves are read as they are. -/
theorem mapM_nameOf? {rule : NameRule} {names : List String}
    (h : ∀ name ∈ names, rule.nameOf? name = some name) : names.mapM rule.nameOf? = some names := by
  induction names with
  | nil => rfl
  | cons name names ih =>
    rw [List.forall_mem_cons] at h
    rw [List.mapM_cons, h.1, ih h.2]
    rfl

/-- Names can be read together if each of them can. -/
theorem isSome_mapM_nameOf? (rule : NameRule) (names : List String) :
    (names.mapM rule.nameOf?).isSome = names.all fun name => (rule.nameOf? name).isSome := by
  induction names with
  | nil => rfl
  | cons name names ih =>
    rw [List.mapM_cons, List.all_cons, ← ih]
    cases rule.nameOf? name with
    | none => rfl
    | some read => cases names.mapM rule.nameOf? <;> rfl

/-- What can be imported has no blank and no end of a line. -/
theorem not_blank_of_nameOf? {rule : NameRule} (h : (rule.nameOf? name).isSome = true) {c : Char}
    (hc : c ∈ name.toList) : c ≠ ' ' ∧ c ≠ '\n' := by
  constructor <;>
  · rintro rfl
    have hletter := rule.letters name h _ hc (by decide)
    revert hletter
    decide

/-! ## Directories -/

theorem lookUp_package (h : importer.lookUp directory name = some (.package inner)) :
    inner = directory.child name ∧ importer.files.isDirectory inner = .ok true := by
  rw [lookUp] at h
  dsimp only at h
  have hok : (importer.files.isDirectory (directory.child name)).toOption.getD false = true →
      importer.files.isDirectory (directory.child name) = .ok true := by
    cases importer.files.isDirectory (directory.child name) with
    | error e => exact nofun
    | ok answer => exact fun hanswer => congrArg Except.ok hanswer
  split at h
  · rename_i hmarked
    cases h
    exact ⟨rfl, hok hmarked.1⟩
  · split at h
    · cases h
    · split at h
      · rename_i hdirectory
        cases h
        exact ⟨rfl, hok hdirectory⟩
      · cases h

theorem lookUp_file (h : importer.lookUp directory name = some (.file path)) :
    path = directory.child (moduleFile name) := by
  rw [lookUp] at h
  dsimp only at h
  split at h
  · cases h
  · split at h
    · cases h
      rfl
    · split at h <;> cases h

/-- A module file is found unless a package of its name comes before it. -/
theorem lookUp_of_isFile
    (hfile : importer.files.isFile (directory.child (moduleFile name)) = .ok true)
    (hpackage : importer.lookUp directory name ≠ some (.package (directory.child name))) :
    importer.lookUp directory name = some (.file (directory.child (moduleFile name))) := by
  have hfound : (importer.files.isFile (directory.child (moduleFile name))).toOption.getD false
      = true := by rw [hfile]; rfl
  rw [lookUp] at hpackage ⊢
  dsimp only at hpackage ⊢
  split at hpackage
  · exact absurd rfl hpackage
  · rename_i hmarked
    rw [if_neg hmarked, if_pos hfound]

/-! ## Dotted names -/

/-- Names are followed on from the package that the names before them lead to. -/
theorem follow_append {done names : List String}
    (h : importer.follow directory done names = .ok (.package inner)) (more : List String) :
    importer.follow directory done (names ++ more) = importer.follow inner (done ++ names) more := by
  induction names generalizing directory done with
  | nil =>
    cases h
    rw [List.nil_append, List.append_nil]
  | cons name names ih =>
    rw [follow] at h
    rw [List.cons_append, follow]
    cases hfound : importer.lookUp directory name with
    | none =>
      rw [hfound] at h
      cases h
    | some place =>
      rw [hfound] at h
      cases place with
      | package next =>
        dsimp only at h ⊢
        rw [ih h, List.append_assoc]
        rfl
      | file path => cases names <;> cases h

/-- A package that names lead to is a directory. -/
theorem isDirectory_of_follow {done names : List String} (hnames : names ≠ [])
    (h : importer.follow directory done names = .ok (.package inner)) :
    importer.files.isDirectory inner = .ok true := by
  induction names generalizing directory done with
  | nil => exact absurd rfl hnames
  | cons name names ih =>
    rw [follow] at h
    cases hfound : importer.lookUp directory name with
    | none =>
      rw [hfound] at h
      cases h
    | some place =>
      rw [hfound] at h
      cases place with
      | package next =>
        cases names with
        | nil =>
          cases h
          exact (lookUp_package hfound).2
        | cons name names => exact ih (List.cons_ne_nil name names) h
      | file path => cases names <;> cases h

theorem follow_one_eq_file {done : List String} :
    importer.follow directory done [name] = .ok (.file path) ↔
      importer.lookUp directory name = some (.file path) := by
  rw [follow]
  dsimp only
  cases importer.lookUp directory name with
  | none => simp
  | some place => cases place <;> simp [follow]

theorem follow_two_eq_file {done : List String} {last : String} :
    importer.follow directory done [name, last] = .ok (.file path) ↔
      ∃ inner, importer.lookUp directory name = some (.package inner) ∧
        importer.lookUp inner last = some (.file path) := by
  rw [follow]
  dsimp only
  cases importer.lookUp directory name with
  | none => simp
  | some place =>
    cases place with
    | package inner => simp [follow_one_eq_file]
    | file path => simp

/-- A dotted name goes on from the package that its front leads to. -/
theorem locate_append {dotted : String} (hne : dotted ≠ "")
    (h : importer.locate dotted = .ok (.package inner)) (more : String) :
    importer.locate (dotted ++ "." ++ more)
      = importer.follow inner (namesOf dotted) (namesOf more) := by
  rw [locate] at h
  split at h
  · cases h
  · rename_i hdot
    have hhead : (dotted ++ "." ++ more).toList.head? = dotted.toList.head? := by
      rw [String.toList_append, String.toList_append, List.append_assoc]
      rw [List.head?_append]
      cases hchars : dotted.toList with
      | nil => exact absurd (String.toList_eq_nil_iff.1 hchars) hne
      | cons c chars => rfl
    rw [locate, hhead, if_neg hdot, namesOf_append, follow_append h, List.nil_append]

/-! ## Generated modules -/

/-- The namespace of generated modules is made of identifiers that stand for themselves, and leads to
the directory where the modules are. -/
structure Serves (importer : Importer) (g : GeneratedSettings) : Prop where
  names : ∀ name ∈ namesOf (trimDots g.namespaceName), importer.rule.nameOf? name = some name
  base : importer.locate (trimDots g.namespaceName) = .ok (.package g.base)

/-- The module of a server's class is found where it is written. -/
structure Finds (importer : Importer) (g : GeneratedSettings) (server className : String) : Prop where
  package : importer.lookUp g.base (Name.package server) = some (.package (g.packagePath server))
  module : importer.lookUp (g.packagePath server) className
    = some (.file (g.classPath server className))

namespace Serves

variable {g : GeneratedSettings} (h : importer.Serves g)

include h

theorem namespaceName_ne_empty : trimDots g.namespaceName ≠ "" := by
  intro hempty
  have hname := h.names "" (by rw [hempty]; decide)
  rw [nameOf?_empty] at hname
  cases hname

theorem isDirectory : importer.files.isDirectory g.base = .ok true := by
  have hbase := h.base
  rw [locate] at hbase
  split at hbase
  · cases hbase
  · exact isDirectory_of_follow (namesOf_ne_nil _) hbase

/-- The aggregate is looked up in the directory of generated files. -/
theorem locate_aggregate : importer.locate g.aggregateModule
    = importer.follow g.base (namesOf (trimDots g.namespaceName)) [aggregateName] := by
  have hnames : namesOf aggregateName = [aggregateName] := by decide +kernel
  rw [GeneratedSettings.aggregateModule, locate_append h.namespaceName_ne_empty h.base, hnames]

/-- The module of a class is looked up in the package of its server. -/
theorem locate_className (server : String) {className : String}
    (hname : Name.IsIdentifier className) :
    importer.locate (g.className server className)
      = importer.follow g.base (namesOf (trimDots g.namespaceName))
          [Name.package server, className] := by
  have hdotted : g.className server className
      = trimDots g.namespaceName ++ "." ++ (Name.package server ++ "." ++ className) := by
    simp only [GeneratedSettings.className, dottedName, String.append_assoc]
  rw [hdotted, locate_append h.namespaceName_ne_empty h.base, namesOf_append,
    namesOf_of_isIdentifier (Name.isIdentifier_package server), namesOf_of_isIdentifier hname,
    List.singleton_append]

theorem locate_className_eq_file {server className : String}
    (hname : Name.IsIdentifier className) :
    importer.locate (g.className server className) = .ok (.file path) ↔
      importer.Finds g server className ∧ path = g.classPath server className := by
  rw [h.locate_className server hname, follow_two_eq_file]
  constructor
  · rintro ⟨inner, hpackage, hmodule⟩
    obtain ⟨rfl, -⟩ := lookUp_package hpackage
    have hpath : path = g.classPath server className := lookUp_file hmodule
    exact ⟨⟨hpackage, hpath ▸ hmodule⟩, hpath⟩
  · rintro ⟨hfinds, rfl⟩
    exact ⟨_, hfinds.package, hfinds.module⟩

/-- What is missing where a class is not found is its package or its module. -/
theorem missing_of_locate {server className missing : String} (hname : Name.IsIdentifier className)
    (hmissing : importer.locate (g.className server className) = .error (.missing missing)) :
    (missing = trimDots g.namespaceName ++ "." ++ Name.package server ∧
        importer.lookUp g.base (Name.package server) = none) ∨
      missing = g.className server className := by
  have hjoin (name : String) : Text.joinWith "." (namesOf (trimDots g.namespaceName) ++ [name])
      = trimDots g.namespaceName ++ "." ++ name := by
    rw [Text.joinWith, String.intercalate_append_of_ne_nil (namesOf_ne_nil _) (by simp),
      ← Text.joinWith, joinWith_namesOf]
    rfl
  have hjoinTwo : Text.joinWith "."
      (namesOf (trimDots g.namespaceName) ++ [Name.package server] ++ [className])
        = g.className server className := by
    rw [Text.joinWith, String.intercalate_append_of_ne_nil (by simp) (by simp), ← Text.joinWith,
      hjoin]
    rfl
  rw [h.locate_className server hname, follow] at hmissing
  dsimp only at hmissing
  -- the search stops at the package, or in it at the module
  cases hpackage : importer.lookUp g.base (Name.package server) with
  | none =>
    simp only [hpackage, hjoin, Except.error.injEq, ImportFault.missing.injEq] at hmissing
    exact Or.inl ⟨hmissing.symm, rfl⟩
  | some place =>
    right
    cases place with
    | file path =>
      simp only [hpackage, hjoinTwo, Except.error.injEq, ImportFault.missing.injEq] at hmissing
      exact hmissing.symm
    | package inner =>
      simp only [hpackage] at hmissing
      rw [follow] at hmissing
      cases hmodule : importer.lookUp inner className with
      | none =>
        simp only [hmodule, hjoinTwo, Except.error.injEq, ImportFault.missing.injEq] at hmissing
        exact hmissing.symm
      | some place => cases place <;> simp [hmodule, follow] at hmissing

/-- What is missing where a class is not found is not on the way to an aggregate that is found. -/
theorem missing_not_on_the_way {server className missing : String} (hname : Name.IsIdentifier className)
    (hmissing : importer.locate (g.className server className) = .error (.missing missing))
    (haggregate : importer.lookUp g.base aggregateName ≠ none) :
    Text.dropText? (missing ++ ".").toList (g.aggregateModule ++ ".").toList = none := by
  cases hdrop : Text.dropText? (missing ++ ".").toList (g.aggregateModule ++ ".").toList with
  | none => rfl
  | some rest =>
    have htexts := Text.eq_append_of_dropText? hdrop
    have hpackage : ∀ c ∈ (Name.package server).toList, decide (c ≠ '.') = true := fun c hc =>
      decide_eq_true (not_dot_of_isIdentifier (Name.isIdentifier_package server) hc)
    -- the first name of the one is the first name of the other, up to the dot
    have hfirst {more : List Char} (heq : aggregateName.toList ++ ['.']
        = (Name.package server).toList ++ '.' :: more) :
        aggregateName = Name.package server ∧ more = [] := by
      have hnames := congrArg (List.takeWhile (· ≠ '.')) heq
      have haggregateRun : (aggregateName.toList ++ ['.']).takeWhile (· ≠ '.')
          = aggregateName.toList := by decide
      have hstop : Text.StopsAt (· ≠ '.') ('.' :: more) := rfl
      rw [haggregateRun, Text.takeWhile_run hpackage hstop] at hnames
      rw [hnames, List.append_cancel_left_eq] at heq
      exact ⟨String.toList_inj.1 hnames, (List.cons.inj heq).2.symm⟩
    simp only [GeneratedSettings.aggregateModule, String.toList_append] at htexts
    rcases h.missing_of_locate hname hmissing with ⟨rfl, hnone⟩ | rfl
    · simp only [String.toList_append, List.append_assoc, List.append_cancel_left_eq] at htexts
      exact absurd ((hfirst htexts).1 ▸ hnone) haggregate
    · simp only [GeneratedSettings.className, dottedName, String.toList_append, List.append_assoc,
        List.append_cancel_left_eq] at htexts
      have hmore := (hfirst htexts).2
      simp at hmore

end Serves

end Importer
end ToolBindings
