import ToolBindings.Proofs.Text.Scan
import ToolBindings.Source.ToolsetModule

/-!
# Modules of toolsets read back

The module that is written for a toolset reads as what it was written for, as long as no dotted name
in it has a blank or the end of a line (`ToolsetModule.read?_write`), and it cannot be mistaken for
the module of a tool (`ToolModule.read?_toolset`).
-/

namespace ToolBindings

/-- An import that stands on a line as it is: its dotted name ends at the next blank. -/
structure ClassImport.Plain (i : ClassImport) : Prop where
  module : ∀ c ∈ i.module.toList, c ≠ ' ' ∧ c ≠ '\n'
  className : ∀ c ∈ i.className.toList, Literal.isNameChar c = true

namespace ToolsetModule

/-! ## Lines -/

/-- A text without blanks ends where a mark with a blank at its front begins. -/
theorem splitAtText?_append {before : List Char} (h : ∀ c ∈ before, c ≠ ' ') (mark after : List Char) :
    splitAtText? (' ' :: mark) (before ++ ' ' :: (mark ++ after)) = some (before, after) := by
  induction before with
  | nil =>
    have hdrop : Text.dropText? (' ' :: mark) (' ' :: (mark ++ after)) = some after :=
      Text.dropText?_append (' ' :: mark) after
    rw [List.nil_append, splitAtText?, hdrop]
  | cons c before ih =>
    have hc : ' ' ≠ c := (h c List.mem_cons_self).symm
    have hdrop (s : List Char) : Text.dropText? (' ' :: mark) (c :: s) = none := by
      rw [Text.dropText?, if_neg hc]
    rw [List.cons_append, splitAtText?, hdrop, ih fun d hd => h d (List.mem_cons_of_mem c hd)]
    rfl

/-- The line of an import without its end. -/
def importText (i : ClassImport) : String := "from " ++ i.module ++ " import " ++ i.className

theorem toList_importText (i : ClassImport) : (importText i).toList
    = "from ".toList ++ (i.module.toList ++ (" import ".toList ++ i.className.toList)) := by
  simp only [importText, String.toList_append, List.append_assoc]

theorem importOf?_importText {i : ClassImport} (h : i.Plain) :
    importOf? (importText i).toList = some i := by
  have hmark : " import ".toList = ' ' :: "import ".toList := by decide
  have hsplit := splitAtText?_append (fun c hc => (h.module c hc).1) "import ".toList
    i.className.toList
  rw [importOf?, toList_importText, Text.dropText?_append]
  simp only [Option.bind_eq_bind, Option.bind_some]
  rw [hmark, List.cons_append, hsplit]
  simp

theorem not_newline_of_mem_importText {i : ClassImport} (h : i.Plain) {c : Char}
    (hc : c ∈ (importText i).toList) : c ≠ '\n' := by
  rw [toList_importText] at hc
  rintro rfl
  simp only [List.mem_append] at hc
  rcases hc with hc | hc | hc | hc
  · revert hc
    decide
  · exact (h.module '\n' hc).2 rfl
  · revert hc
    decide
  · have hname := h.className '\n' hc
    revert hname
    decide

theorem line_append {first : List Char} (h : ∀ c ∈ first, c ≠ '\n') (rest : List Char) :
    line (first ++ '\n' :: rest) = (first, rest) := by
  have hrun : ∀ c ∈ first, decide (c ≠ '\n') = true := fun c hc => decide_eq_true (h c hc)
  have hstop : Text.StopsAt (· ≠ '\n') ('\n' :: rest) := rfl
  rw [line, Text.takeWhile_run hrun hstop, Text.dropWhile_run hrun hstop]
  rfl

/-- The import that every toolset needs is not at the front of another import that is followed by
one: it is followed by an empty line. -/
theorem dropText?_baseImport {i : ClassImport} (h : i.Plain) (rest : List Char) :
    Text.dropText? baseImport.toList ((importText i).toList ++ '\n' :: 'f' :: rest) = none := by
  obtain ⟨text, htext, hbase⟩ : ∃ text : List Char, '\n' ∉ text ∧
      baseImport.toList = text ++ '\n' :: ['\n', '\n'] :=
    ⟨"from mcpforge.tools.toolset import StaticToolset".toList, by decide +kernel, by decide +kernel⟩
  have htext : ∀ c ∈ text, c ≠ '\n' := fun c hc => ne_of_mem_of_not_mem hc htext
  rw [hbase]
  cases hdrop : Text.dropText? (text ++ '\n' :: ['\n', '\n'])
      ((importText i).toList ++ '\n' :: 'f' :: rest) with
  | none => rfl
  | some after =>
    have hlines := congrArg line (Text.eq_append_of_dropText? hdrop)
    rw [List.append_assoc, List.cons_append, line_append htext,
      line_append fun c hc => not_newline_of_mem_importText h hc] at hlines
    exact absurd (List.cons.inj (Prod.mk.inj hlines).2).1 (by decide)

/-! ## Modules -/

/-- The lines of imports. -/
def importLines (imports : List ClassImport) : List Char :=
  imports.flatMap fun i => (importLine i).toList

theorem importLines_cons (i : ClassImport) (imports : List ClassImport) (rest : List Char) :
    importLines (i :: imports) ++ rest
      = (importText i).toList ++ '\n' :: (importLines imports ++ rest) := by
  simp [importLines, importLine, importText]

/-- At the front of lines stands an import, if only the one that every toolset needs. -/
theorem importLines_append_baseImport (imports : List ClassImport) (rest : List Char) :
    ∃ after, importLines imports ++ (baseImport.toList ++ rest) = 'f' :: after := by
  cases imports with
  | nil =>
    have hbase : baseImport.toList
        = 'f' :: "rom mcpforge.tools.toolset import StaticToolset\n\n\n".toList := by decide +kernel
    rw [importLines, List.flatMap_nil, List.nil_append, hbase, List.cons_append]
    exact ⟨_, rfl⟩
  | cons i imports =>
    have hfrom : "from ".toList = 'f' :: "rom ".toList := by decide
    rw [importLines_cons, toList_importText, hfrom, List.cons_append, List.cons_append]
    exact ⟨_, rfl⟩

theorem imports?_importLines {imports : List ClassImport} (h : ∀ i ∈ imports, i.Plain)
    (rest : List Char) {lines : Nat} (hlines : imports.length < lines) :
    imports? lines (importLines imports ++ (baseImport.toList ++ rest)) = some (imports, rest) := by
  induction imports generalizing lines with
  | nil =>
    obtain ⟨lines, rfl⟩ : ∃ k, lines = k + 1 := Nat.exists_eq_succ_of_ne_zero (by omega)
    rw [imports?, importLines, List.flatMap_nil, List.nil_append,
      Text.dropText?_append]
  | cons i imports ih =>
    have hi : i.Plain := h i List.mem_cons_self
    obtain ⟨lines, rfl⟩ : ∃ k, lines = k + 1 := Nat.exists_eq_succ_of_ne_zero (by omega)
    have hrest := ih (fun j hj => h j (List.mem_cons_of_mem i hj)) (Nat.lt_of_succ_lt_succ hlines)
    -- whatever comes next is an import
    obtain ⟨after, hnext⟩ := importLines_append_baseImport imports rest
    have hbase := dropText?_baseImport hi after
    rw [← hnext] at hbase
    rw [importLines_cons, imports?, hbase]
    dsimp only
    rw [line_append fun c hc => not_newline_of_mem_importText hi hc]
    simp only [importOf?_importText hi, hrest]

theorem length_le_importLines (imports : List ClassImport) :
    imports.length ≤ (importLines imports).length := by
  induction imports with
  | nil => exact Nat.le_refl 0
  | cons i imports ih =>
    have htext := importLines_cons i imports []
    rw [List.append_nil, List.append_nil] at htext
    rw [htext, List.length_append, List.length_cons, List.length_cons]
    omega

/-- The text of a module in its parts. -/
theorem toList_write (m : ToolsetModule) :
    (write m).toList = (generatedHeader ++ "\n").toList ++ (importLines m.imports ++
      (baseImport.toList ++ ("class ".toList ++ (m.className.toList ++
        ("(StaticToolset):\n    classes = ".toList ++ (classList m.imports ++ "\n").toList))))) := by
  have hlines : (String.join (m.imports.map importLine)).toList = importLines m.imports := by
    rw [String.toList_join, List.flatMap_map, importLines]
  rw [write]
  simp only [String.toList_append, hlines, List.append_assoc]

/-- The text of a module reads as what it was written for. -/
theorem read?_write {m : ToolsetModule} (hname : ∀ c ∈ m.className.toList, Literal.isNameChar c = true)
    (himports : ∀ i ∈ m.imports, i.Plain) : read? (write m) = some m := by
  have hstop (rest : List Char) : Text.StopsAt Literal.isNameChar
      ("(StaticToolset):\n    classes = ".toList ++ rest) := by
    have hfirst : "(StaticToolset):\n    classes = ".toList
        = '(' :: "StaticToolset):\n    classes = ".toList := by decide
    rw [hfirst, List.cons_append, Text.stopsAt_cons]
    rfl
  have hlines (rest : List Char) : m.imports.length
      < (importLines m.imports ++ (baseImport.toList ++ rest)).length + 1 := by
    rw [List.length_append]
    exact Nat.lt_succ_of_le (Nat.le_trans (length_le_importLines m.imports) (Nat.le_add_right _ _))
  rw [read?, toList_write, Text.dropText?_append]
  simp only [Option.bind_eq_bind, Option.bind_some]
  rw [imports?_importLines himports _ (hlines _)]
  simp only [Option.bind_some, Text.dropText?_append]
  rw [Text.takeWhile_run hname (hstop _), Text.dropWhile_run hname (hstop _), Text.dropText?_append]
  simp

/-! ## The list at the end -/

/-- The line of a name in the list. -/
def listLine (name : String) : List Char := List.replicate 8 ' ' ++ (name.toList ++ [','])

/-- The line that opens the list. -/
def openingLine : List Char := "    classes = [".toList

/-- The names on lines, read upwards to the line that opens the list. -/
def listedAbove : List (List Char) → List String → Option (List String)
  | [], _ => none
  | line :: above, names =>
    if line = openingLine then some names
    else
      let name := String.ofList ((line.drop 8).takeWhile Literal.isNameChar)
      if line = listLine name then listedAbove above (name :: names) else none

/-- The names that a text lists at its end, whatever it imports. -/
def listed? (source : String) : Option (List String) :=
  match (Text.splitOn '\n' source.toList).reverse with
  | [] :: closing :: above => if closing = "    ]".toList then listedAbove above [] else none
  | _ => none

theorem listedAbove_listLines {names : List String}
    (hnames : ∀ name ∈ names, ∀ c ∈ name.toList, Literal.isNameChar c = true)
    (above : List (List Char)) (more : List String) :
    listedAbove (names.map listLine ++ openingLine :: above) more = some (names.reverse ++ more) := by
  induction names generalizing more with
  | nil => rw [List.map_nil, List.nil_append, listedAbove, if_pos rfl, List.reverse_nil,
      List.nil_append]
  | cons name names ih =>
    rw [List.forall_mem_cons] at hnames
    -- the line of a name goes on with blanks where the opening one has a letter
    have hopening : listLine name ≠ openingLine := by
      intro hline
      have hfifth : openingLine[4]? = some 'c' := by decide +kernel
      rw [← hline, listLine, List.getElem?_append_left (by simp)] at hfifth
      simp at hfifth
    have hstop : Text.StopsAt Literal.isNameChar [','] := by
      rw [Text.stopsAt_cons]
      rfl
    have hname : ((listLine name).drop 8).takeWhile Literal.isNameChar = name.toList := by
      rw [listLine, List.drop_left' List.length_replicate, Text.takeWhile_run hnames.1 hstop]
    rw [List.map_cons, List.cons_append, listedAbove, if_neg hopening]
    simp only [hname, String.ofList_toList, if_true]
    rw [ih hnames.2, List.reverse_cons, List.append_assoc]
    rfl

/-- The lines of names, each with its end. -/
def listLines (names : List String) : List Char := names.flatMap fun name => listLine name ++ ['\n']

theorem splitOn_listLines {names : List String}
    (hnames : ∀ name ∈ names, ∀ c ∈ name.toList, Literal.isNameChar c = true) (rest : List Char) :
    Text.splitOn '\n' (listLines names ++ rest) = names.map listLine ++ Text.splitOn '\n' rest := by
  induction names with
  | nil => rfl
  | cons name names ih =>
    rw [List.forall_mem_cons] at hnames
    have hline : '\n' ∉ listLine name := by
      simp only [listLine, List.mem_append, List.mem_replicate, List.mem_singleton, not_or]
      refine ⟨fun h => absurd h.2 (by decide), fun hc => ?_, by decide⟩
      have hchar := hnames.1 _ hc
      revert hchar
      decide
    have htext : listLines (name :: names) ++ rest
        = listLine name ++ '\n' :: (listLines names ++ rest) := by
      simp [listLines]
    rw [htext, Text.splitOn_append, Text.splitOn_of_not_mem hline, ih hnames.2]
    rfl

/-- The text of a list that is not empty, in its lines. -/
theorem toList_classList {imports : List ClassImport} (h : imports ≠ []) :
    (classList imports).toList = '[' :: '\n' ::
      (listLines (imports.map ClassImport.className) ++ "    ]".toList) := by
  have hblanks : "        ".toList = List.replicate 8 ' ' := by decide +kernel
  have hline (i : ClassImport) : ("        " ++ i.className ++ ",\n").toList
      = listLine i.className ++ ['\n'] := by
    simp [listLine, hblanks]
  have htext : classList imports = "[\n" ++
      String.join (imports.map fun i => "        " ++ i.className ++ ",\n") ++ "    ]" := by
    cases imports with
    | nil => exact absurd rfl h
    | cons i imports => rfl
  rw [htext, String.toList_append, String.toList_append, String.toList_join, List.flatMap_map]
  simp only [hline, listLines, List.flatMap_map]
  rfl

/-- The text that is written for a toolset lists the classes that it was written for, whatever their
modules are called. -/
theorem listed?_write {m : ToolsetModule} (himports : m.imports ≠ [])
    (hnames : ∀ i ∈ m.imports, ∀ c ∈ i.className.toList, Literal.isNameChar c = true) :
    listed? (write m) = some (m.imports.map ClassImport.className) := by
  have hnames' : ∀ name ∈ m.imports.map ClassImport.className,
      ∀ c ∈ name.toList, Literal.isNameChar c = true := List.forall_mem_map.2 hnames
  have hmark : "(StaticToolset):\n    classes = ".toList
      = "(StaticToolset):".toList ++ '\n' :: "    classes = ".toList := by decide +kernel
  have hopening : "    classes = ".toList ++ ['['] = openingLine := by decide +kernel
  have hclosing : '\n' ∉ "    ]".toList := by decide +kernel
  have hopeningLine : '\n' ∉ openingLine := by decide +kernel
  -- the lines of the list, and whatever comes before them
  obtain ⟨front, hfront⟩ : ∃ front, (write m).toList = front ++ '\n' :: (openingLine ++ '\n' ::
      (listLines (m.imports.map ClassImport.className) ++ ("    ]".toList ++ '\n' :: []))) := by
    refine ⟨(generatedHeader ++ "\n").toList ++ (importLines m.imports ++ (baseImport.toList ++
      ("class ".toList ++ (m.className.toList ++ "(StaticToolset):".toList)))), ?_⟩
    rw [toList_write, hmark, ← hopening]
    simp [toList_classList himports]
  have hlines : Text.splitOn '\n' (write m).toList = Text.splitOn '\n' front ++ openingLine ::
      ((m.imports.map ClassImport.className).map listLine ++ ["    ]".toList, []]) := by
    rw [hfront, Text.splitOn_append, Text.splitOn_append, Text.splitOn_of_not_mem hopeningLine,
      splitOn_listLines hnames', Text.splitOn_append, Text.splitOn_of_not_mem hclosing]
    rfl
  rw [listed?, hlines]
  simp only [List.reverse_append, List.reverse_cons, List.reverse_nil, List.nil_append,
    List.cons_append, List.append_assoc, if_true]
  rw [← List.map_reverse, listedAbove_listLines fun name hname => hnames' name (List.mem_reverse.1 hname),
    List.reverse_reverse, List.append_nil]

end ToolsetModule

/-- The first import in the text of a toolset, be it of a class or the one that all need. -/
private theorem first_import {imports : List ClassImport} (himports : ∀ i ∈ imports, i.Plain)
    (hbase : ∀ i ∈ imports, i.module ≠ "mcpforge.tools.base") (tail : List Char) :
    ∃ module after : List Char,
      ToolsetModule.importLines imports ++ (ToolsetModule.baseImport.toList ++ tail)
          = "from ".toList ++ (module ++ ' ' :: after) ∧
        (∀ c ∈ module, c ≠ ' ') ∧ module ≠ "mcpforge.tools.base".toList := by
  cases imports with
  | nil =>
    have htext : ToolsetModule.baseImport.toList = "from ".toList ++
        ("mcpforge.tools.toolset".toList ++ ' ' :: "import StaticToolset\n\n\n".toList) := by
      decide +kernel
    have hblank : ' ' ∉ "mcpforge.tools.toolset".toList := by decide +kernel
    refine ⟨"mcpforge.tools.toolset".toList, "import StaticToolset\n\n\n".toList ++ tail, ?_,
      fun c hc => ne_of_mem_of_not_mem hc hblank, by decide +kernel⟩
    rw [htext]
    simp only [ToolsetModule.importLines, List.flatMap_nil, List.nil_append, List.append_assoc,
      List.cons_append]
  | cons i imports =>
    have hmark : " import ".toList = ' ' :: "import ".toList := by decide
    refine ⟨i.module.toList, "import ".toList ++ (i.className.toList ++ '\n' ::
      (ToolsetModule.importLines imports ++ (ToolsetModule.baseImport.toList ++ tail))), ?_, ?_, ?_⟩
    · rw [ToolsetModule.importLines_cons, ToolsetModule.toList_importText, hmark]
      simp only [List.append_assoc, List.cons_append]
    · exact fun c hc => ((himports i List.mem_cons_self).module c hc).1
    · exact fun h => hbase i List.mem_cons_self (String.toList_inj.1 h)

/-- The front of every module of a tool. -/
private theorem opening_eq : ∃ after, ToolModule.opening = (generatedHeader ++ "\n").toList ++
    ("from ".toList ++ ("mcpforge.tools.base".toList ++ ' ' :: after)) := by
  have himport : "\nfrom mcpforge.tools.base import McpTool\n".toList
      = "\n".toList ++ ("from ".toList ++ ("mcpforge.tools.base".toList ++
        ' ' :: "import McpTool\n".toList)) := by decide +kernel
  rw [ToolModule.opening, String.toList_append, String.toList_append, String.toList_append, himport]
  simp only [List.append_assoc, List.cons_append]
  exact ⟨_, rfl⟩

/-- The module of a toolset is no module of a tool, unless it first imports what these import. -/
theorem ToolModule.read?_toolset {m : ToolsetModule} (himports : ∀ i ∈ m.imports, i.Plain)
    (hbase : ∀ i ∈ m.imports, i.module ≠ "mcpforge.tools.base") :
    ToolModule.read? (ToolsetModule.write m) = none := by
  obtain ⟨opened, hopening⟩ := opening_eq
  obtain ⟨module, after, hfirst, hmodule, hother⟩ := first_import himports hbase
    ("class ".toList ++ (m.className.toList ++ ("(StaticToolset):\n    classes = ".toList ++
      (ToolsetModule.classList m.imports ++ "\n").toList)))
  rw [ToolModule.read?, Option.bind_eq_bind, Option.bind_eq_none_iff]
  intro rest hrest
  have htexts := Text.eq_append_of_dropText? hrest
  rw [ToolsetModule.toList_write, hfirst, hopening] at htexts
  have hblank : ' ' ∉ "mcpforge.tools.base".toList := by decide +kernel
  have hbaseName : ∀ c ∈ "mcpforge.tools.base".toList, c ≠ ' ' :=
    fun c hc => ne_of_mem_of_not_mem hc hblank
  generalize (generatedHeader ++ "\n").toList = header at htexts
  generalize "mcpforge.tools.base".toList = baseName at htexts hother hbaseName
  rw [List.append_assoc, List.append_assoc, List.append_cancel_left_eq,
    List.append_cancel_left_eq, List.append_assoc, List.cons_append] at htexts
  have hrun {name : List Char} (hname : ∀ c ∈ name, c ≠ ' ') (tail : List Char) :
      (name ++ ' ' :: tail).takeWhile (· ≠ ' ') = name :=
    Text.takeWhile_run (fun c hc => decide_eq_true (hname c hc)) rfl
  have hnames := congrArg (List.takeWhile (· ≠ ' ')) htexts
  rw [hrun hmodule, hrun hbaseName] at hnames
  exact absurd hnames hother

end ToolBindings
