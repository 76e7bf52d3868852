import ToolBindings.CommandLine.Run
import ToolBindings.Proofs.Console.Printer

/-!
# Configuration errors on the console

An error in the configuration keeps a command from starting: the process exits with 1 and leaves the
files as they are. Its message, whatever the texts of validators in it are, is printed as markup. On
every console that takes markup as it is relied on to do, it is shown in full exactly if there is
nothing in it that markup takes away and the console shows it in full when it is escaped
(`reports_startBy`).
-/

namespace ToolBindings.CommandLine

open Console

/-- A process that ends with a message on a console. -/
structure Reports (p : Printer) (message : String) (outcome : Outcome) : Prop where
  exit : outcome.exit = 1
  inFull_iff : message.toList <:+: outcome.console.toList ↔ ¬Marked message.toList ∧
    ∃ line, p.printEscaped "red" ("Error: " ++ message).toList = .ok line ∧ message.toList <:+: line
  /-- With nothing to take away, the message is shown as commands show theirs. -/
  shown : ¬Marked message.toList →
    ∃ line, p.printEscaped "red" ("Error: " ++ message).toList = .ok line ∧
      outcome = ⟨1, String.ofList line, none⟩
  /-- With a closing tag that closes nothing, no message is shown at all. -/
  stopped : ClosesNothing message.toList → outcome = .crashed "" .markup

/-! ## Messages -/

variable {p : Printer} {message : String} {s line : List Char}

/-- The word before a message. -/
theorem unmarked_error : ("Error: ".toList.all (!isMark ·)) = true := by decide

/-- What markup takes away from a message is not shown. -/
theorem not_infix_of_marked (hp : p.Lawful) (hmarked : Marked s)
    (hline : p.print (coloured "red" ("Error: ".toList ++ s)) = .ok line) : ¬s <:+: line := by
  rintro ⟨before, behind, rfl⟩
  have hle (a : Char) : s.count a ≤ (before ++ s ++ behind).count a :=
    (List.infix_append before s behind).sublist.count_le a
  by_cases hbackslash : HasEscapedTag s ∨ s.getLast? = some '\\'
  · have htag : HasEscapedTag ("Error: ".toList ++ s) ∨
        ("Error: ".toList ++ s).getLast? = some '\\' := by
      refine hbackslash.imp (HasEscapedTag.append _) fun hlast => ?_
      rw [List.getLast?_append, hlast]
      rfl
    have hlt := hp.unescaped _ _ (hasEscapedTag_coloured htag) hline
    have hcount : (coloured "red" ("Error: ".toList ++ s)).count '\\' = s.count '\\' := by
      simp [coloured, List.count_append]
    have := hle '\\'
    omega
  · rw [not_or] at hbackslash
    have htag : HasTag s := by
      rcases hmarked with htag | hescaped | hlast
      · exact htag
      · exact absurd hescaped hbackslash.1
      · exact absurd hlast hbackslash.2
    have hlt := hp.consumed _ _ (htag.append unmarked_error)
      (getLast?_append_ne unmarked_error hbackslash.2) hline
    have hcount : ("Error: ".toList ++ s).count '[' = s.count '[' := by
      rw [List.count_append, count_of_unmarked (by decide) unmarked_error, Nat.zero_add]
    have := hle '['
    omega

theorem reports_errorLine (hp : p.Lawful) (message : String) :
    Reports p message (.shown 1 (p.errorLine message)) := by
  have hwhole : ("Error: " ++ message).toList = "Error: ".toList ++ message.toList :=
    String.toList_append
  have hshown (hmarked : ¬Marked message.toList) : ∃ line,
      p.printEscaped "red" ("Error: " ++ message).toList = .ok line ∧
        Outcome.shown 1 (p.errorLine message) = ⟨1, String.ofList line, none⟩ := by
    have hwhole' := not_marked_append unmarked_error hmarked
    rw [← hwhole] at hwhole'
    obtain ⟨line, hline⟩ := hp.escaped _ fun hlast => hwhole' (Or.inr (Or.inr hlast))
    refine ⟨line, hline, ?_⟩
    rw [Printer.printEscaped, hp.untouched _ hwhole'] at hline
    rw [Printer.errorLine, hline]
    rfl
  refine ⟨?_, ⟨fun hmessage => ?_, ?_⟩, hshown, fun hcloses => ?_⟩
  · unfold Outcome.shown
    split <;> rfl
  · have hmarked : ¬Marked message.toList := by
      intro hmarked
      cases hline : p.print (coloured "red" ("Error: " ++ message).toList) with
      | ok line =>
        rw [Printer.errorLine, hline] at hmessage
        have hconsole : message.toList <:+: (String.ofList line).toList := hmessage
        rw [String.toList_ofList] at hconsole
        rw [hwhole] at hline
        exact not_infix_of_marked hp hmarked hline hconsole
      | error crash =>
        -- the console is empty, and so is the message if it is there
        rw [Printer.errorLine, hline] at hmessage
        rw [List.infix_nil.1 hmessage] at hmarked
        exact not_marked_nil hmarked
    obtain ⟨line, hline, houtcome⟩ := hshown hmarked
    rw [houtcome] at hmessage
    exact ⟨hmarked, line, hline, by rwa [← String.toList_ofList (l := line)]⟩
  · rintro ⟨hmarked, line, hline, hmessage⟩
    obtain ⟨line', hline', houtcome⟩ := hshown hmarked
    rw [hline, Except.ok.injEq] at hline'
    rw [houtcome, ← hline']
    show _ <:+: (String.ofList line).toList
    rwa [String.toList_ofList]
  · have hcloses' := hcloses.append unmarked_error
    rw [← hwhole] at hcloses'
    rw [Printer.errorLine, hp.unmatched _ hcloses']
    rfl

variable {surroundings : Surroundings} {w : Workspace} {config : Option String}
  {cause : ConfigurationFault}

theorem startBy_of_configuration (say : ConfigurationFault → String) (request : Request)
    (h : surroundings.loadSettings w.files config = .error (.ofConfiguration cause)) :
    surroundings.startBy say config request w
      = (.shown 1 (surroundings.printer.errorLine (say cause)), w) := by
  rw [Surroundings.startBy, h]
  rfl

/-- A configuration error is reported and changes nothing, whatever gives its message. -/
theorem reports_startBy (surroundings : Surroundings) (hp : surroundings.printer.Lawful)
    (say : ConfigurationFault → String) (config : Option String) (request : Request)
    (w : Workspace) {cause : ConfigurationFault}
    (h : surroundings.loadSettings w.files config = .error (.ofConfiguration cause)) :
    (surroundings.startBy say config request w).2 = w ∧
      Reports surroundings.printer (say cause) (surroundings.startBy say config request w).1 := by
  rw [startBy_of_configuration say request h]
  exact ⟨rfl, reports_errorLine hp (say cause)⟩

/-! ## A path with a tag in it -/

/-- Surroundings without environment variables. -/
def plainSurroundings : Surroundings :=
  ⟨[], ⟨"/", ["home"]⟩, "2026-01-01T00:00:00Z", "x", .ofWidth .unbounded⟩

/-- A workspace without files. -/
def barrenWorkspace : Workspace := ⟨⟨[], []⟩, .ofScript none, []⟩

private theorem loadSettings_draft :
    plainSurroundings.loadSettings barrenWorkspace.files (some "missing [draft].yaml")
      = .error (.ofConfiguration (.fileNotFound "missing [draft].yaml")) := by
  rfl

theorem reports_start_draft :
    plainSurroundings.loadSettings barrenWorkspace.files (some "missing [draft].yaml")
        = .error (.ofConfiguration (.fileNotFound "missing [draft].yaml")) ∧
      plainSurroundings.printer.Lawful ∧
      Reports plainSurroundings.printer "Config file not found: missing [draft].yaml"
        (plainSurroundings.start (some "missing [draft].yaml") (.health [] false)
          barrenWorkspace).1 :=
  ⟨loadSettings_draft, lawful_ofWidth .unbounded, (reports_startBy plainSurroundings
    (lawful_ofWidth .unbounded) ConfigurationFault.message (some "missing [draft].yaml")
    (.health [] false) barrenWorkspace loadSettings_draft).2⟩

/-- The tag in the path does not come to the console. -/
theorem not_infix_start_draft : ¬"Config file not found: missing [draft].yaml".toList <:+:
    (plainSurroundings.start (some "missing [draft].yaml") (.health [] false)
      barrenWorkspace).1.console.toList := by
  intro hmessage
  have hstart := startBy_of_configuration ConfigurationFault.message (.health [] false)
    loadSettings_draft
  rw [Surroundings.start, hstart] at hmessage
  have hmarked := ((reports_errorLine (lawful_ofWidth .unbounded) _).inFull_iff.1 hmessage).1
  refine hmarked (Or.inl ⟨"Config file not found: missing ".toList, "draft".toList, ".yaml".toList,
    ?_, by decide, ?_⟩)
  · decide
  · exact ⟨⟨'d', "raft".toList, by decide, Or.inl (by decide)⟩, by decide, by decide⟩

end ToolBindings.CommandLine
