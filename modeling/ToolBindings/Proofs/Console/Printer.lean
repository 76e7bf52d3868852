import ToolBindings.Proofs.Console.Markup
import ToolBindings.Proofs.Console.Style

/-!
# What consoles do with markup

A console is relied on for three things (`Printer.Lawful`): it takes tags, and backslashes before
them, away; it fails at a closing tag that closes nothing; and a text that is escaped, which one
without tags need not be, keeps it from failing. The console of the program does so at every width
(`lawful_ofWidth`).
-/

namespace ToolBindings.Console

variable {s : List Char}

/-! ## Tags in texts -/

/-- What may stand between the brackets of a tag: a small letter or one of three signs in front, and
no brackets. -/
structure IsTag (inside : List Char) : Prop where
  starts : ∃ c rest, inside = c :: rest ∧ ('a' ≤ c ∧ c ≤ 'z' ∨ c ∈ ['#', '/', '@'])
  noOpen : '[' ∉ inside
  noClose : ']' ∉ inside

/-- A tag stands in a text, with no backslash before it. -/
def HasTag (s : List Char) : Prop := ∃ front inside back,
  s = front ++ '[' :: inside ++ ']' :: back ∧ front.getLast? ≠ some '\\' ∧ IsTag inside

/-- A tag stands in a text after a backslash. -/
def HasEscapedTag (s : List Char) : Prop := ∃ front inside back,
  s = front ++ '\\' :: '[' :: inside ++ ']' :: back ∧ IsTag inside

/-- There is something in a text that markup takes away: a tag, or a backslash at the end, which would
stand before a tag behind the text. -/
def Marked (s : List Char) : Prop := HasTag s ∨ HasEscapedTag s ∨ s.getLast? = some '\\'

theorem not_marked_nil : ¬Marked [] := by
  rintro (⟨front, inside, back, heq, -⟩ | ⟨front, inside, back, heq, -⟩ | hlast)
  · simp at heq
  · simp at heq
  · cases hlast

/-- The first bracket in a text opens a closing tag, for another word than `red`. -/
def ClosesNothing (s : List Char) : Prop := ∃ front name back,
  s = front ++ '[' :: '/' :: name ++ ']' :: back ∧ '[' ∉ front ∧ front.getLast? ≠ some '\\' ∧
    name ≠ [] ∧ name ≠ "red".toList ∧ ∀ c ∈ name, 'a' ≤ c ∧ c ≤ 'z'

/-- What the texts that a program shows rely on. -/
structure Printer.Lawful (p : Printer) : Prop where
  /-- A tag is taken as markup: its bracket is not shown. -/
  consumed : ∀ s out, HasTag s → s.getLast? ≠ some '\\' → p.print (coloured "red" s) = .ok out →
    out.count '[' < s.count '['
  /-- So is a backslash before a tag. -/
  unescaped : ∀ s out, HasEscapedTag s → p.print s = .ok out → out.count '\\' < s.count '\\'
  /-- A closing tag that closes nothing is an error. -/
  unmatched : ∀ s, ClosesNothing s → p.print (coloured "red" s) = .error .markup
  /-- There is nothing to escape in a text without tags. -/
  untouched : ∀ s, ¬Marked s → p.escape s = s
  /-- A text that is escaped is no error. -/
  escaped : ∀ s, s.getLast? ≠ some '\\' → ∃ out, p.printEscaped "red" s = .ok out

namespace Markup

theorem tag?_of_isTag {inside : List Char} (h : IsTag inside) (back : List Char) :
    tag? (inside ++ ']' :: back) = some (inside, back) := by
  obtain ⟨⟨c, rest, rfl, hstarts⟩, hopen, hclose⟩ := h
  refine tag?_eq_some.2 ⟨rfl, c, rest, rfl, ?_, fun d hd => ?_⟩
  · simpa [startsTag, or_assoc] using hstarts
  · have hopen' : d ≠ '[' := fun heq => hopen (heq ▸ List.mem_cons_of_mem c hd)
    have hclose' : d ≠ ']' := fun heq => hclose (heq ▸ List.mem_cons_of_mem c hd)
    simp [isInside, hopen', hclose']

theorem isTag_of_tag? {tag after : List Char} (h : tag? s = some (tag, after)) : IsTag tag := by
  obtain ⟨-, c, inside, rfl, hstarts, hinside⟩ := tag?_eq_some.1 h
  have hall : ∀ d ∈ c :: inside, isInside d = true :=
    List.forall_mem_cons.2 ⟨isInside_of_startsTag hstarts, hinside⟩
  refine ⟨⟨c, inside, rfl, by simpa [startsTag, or_assoc] using hstarts⟩, fun hmem => ?_, fun hmem => ?_⟩
  · exact absurd (hall _ hmem) (by decide)
  · exact absurd (hall _ hmem) (by decide)

/-- A text with a tag at its front has a tag in it. -/
theorem hasTag_of_front? {n : Nat} {tag after : List Char} (h : front? s = some (n, tag, after)) :
    HasTag s ∨ HasEscapedTag s := by
  have htag := isTag_of_tag? (tag?_of_front? h after)
  rw [eq_of_front? h]
  cases n with
  | zero => exact Or.inl ⟨[], tag, after, rfl, nofun, htag⟩
  | succ n =>
    refine Or.inr ⟨List.replicate n '\\', tag, after, ?_, htag⟩
    rw [List.replicate_succ']
    simp

end Markup

theorem HasEscapedTag.cons {c : Char} (h : HasEscapedTag s) : HasEscapedTag (c :: s) := by
  obtain ⟨front, inside, back, rfl, htag⟩ := h
  exact ⟨c :: front, inside, back, rfl, htag⟩

theorem HasTag.cons {c : Char} (h : HasTag s) : HasTag (c :: s) ∨ HasEscapedTag (c :: s) := by
  obtain ⟨front, inside, back, rfl, hfront, htag⟩ := h
  cases front with
  | nil =>
    by_cases hc : c = '\\'
    · exact Or.inr ⟨[], inside, back, by rw [hc]; rfl, htag⟩
    · exact Or.inl ⟨[c], inside, back, rfl, fun heq => hc (Option.some.inj heq), htag⟩
  | cons d front => exact Or.inl ⟨c :: d :: front, inside, back, rfl, by simpa using hfront, htag⟩

namespace Markup

/-- A text without tags is left alone. -/
theorem escapeTags_of_tagless (htag : ¬HasTag s) (hescaped : ¬HasEscapedTag s) :
    escapeTags s = s := by
  induction s using escapeTags.induct with
  | case1 s n tag after hfront ih =>
    exact absurd (hasTag_of_front? hfront) (not_or.2 ⟨htag, hescaped⟩)
  | case2 => exact escapeTags_nil
  | case3 c rest hfront ih =>
    rw [escapeTags_of_none hfront, ih (fun h => h.cons.elim htag hescaped) (fun h => hescaped h.cons)]

end Markup

/-! ## Behind a text without marks -/

section Behind

variable {front : List Char}

theorem HasTag.of_append (hfront : front.all (!isMark ·) = true) (h : HasTag (front ++ s)) :
    HasTag s := by
  induction front with
  | nil => exact h
  | cons c rest ih =>
    rw [List.all_cons, Bool.and_eq_true] at hfront
    refine ih hfront.2 ?_
    obtain ⟨before, inside, back, heq, hlast, htag⟩ := h
    cases before with
    | nil =>
      rw [(List.cons.inj heq).1] at hfront
      exact absurd hfront.1 (by decide)
    | cons d before =>
      refine ⟨before, inside, back, (List.cons.inj heq).2, ?_, htag⟩
      exact Markup.getLast?_ne_of_suffix hlast (List.suffix_cons d before)

theorem HasEscapedTag.of_append (hfront : front.all (!isMark ·) = true)
    (h : HasEscapedTag (front ++ s)) : HasEscapedTag s := by
  induction front with
  | nil => exact h
  | cons c rest ih =>
    rw [List.all_cons, Bool.and_eq_true] at hfront
    refine ih hfront.2 ?_
    obtain ⟨before, inside, back, heq, htag⟩ := h
    cases before with
    | nil =>
      rw [(List.cons.inj heq).1] at hfront
      exact absurd hfront.1 (by decide)
    | cons d before => exact ⟨before, inside, back, (List.cons.inj heq).2, htag⟩

/-- A text without brackets and backslashes does not end in a backslash. -/
theorem getLast?_append_ne (hfront : front.all (!isMark ·) = true) (h : s.getLast? ≠ some '\\') :
    (front ++ s).getLast? ≠ some '\\' := by
  rw [List.getLast?_append]
  cases hs : s.getLast? with
  | some c => rwa [hs] at h
  | none =>
    intro hlast
    have hmark := List.all_eq_true.1 hfront _ (List.mem_of_getLast? hlast)
    exact absurd hmark (by decide)

theorem not_marked_append (hfront : front.all (!isMark ·) = true) (h : ¬Marked s) :
    ¬Marked (front ++ s) := by
  simp only [Marked, not_or] at h ⊢
  exact ⟨fun htag => h.1 (.of_append hfront htag), fun htag => h.2.1 (.of_append hfront htag),
    getLast?_append_ne hfront h.2.2⟩

theorem HasEscapedTag.append (front : List Char) (h : HasEscapedTag s) :
    HasEscapedTag (front ++ s) := by
  obtain ⟨before, inside, back, rfl, htag⟩ := h
  exact ⟨front ++ before, inside, back, by simp, htag⟩

theorem HasTag.append (hfront : front.all (!isMark ·) = true) (h : HasTag s) :
    HasTag (front ++ s) := by
  obtain ⟨before, inside, back, rfl, hlast, htag⟩ := h
  refine ⟨front ++ before, inside, back, by simp, getLast?_append_ne hfront hlast, htag⟩

theorem ClosesNothing.append (hfront : front.all (!isMark ·) = true) (h : ClosesNothing s) :
    ClosesNothing (front ++ s) := by
  obtain ⟨before, name, back, rfl, hbracket, hlast, hname⟩ := h
  refine ⟨front ++ before, name, back, by simp, ?_, getLast?_append_ne hfront hlast, hname⟩
  rw [List.mem_append]
  rintro (hmem | hmem)
  · exact absurd (List.all_eq_true.1 hfront _ hmem) (by decide)
  · exact hbracket hmem

/-- A backslash at the end of a text in red comes before the tag that ends the red. -/
theorem hasEscapedTag_coloured (h : HasEscapedTag s ∨ s.getLast? = some '\\') :
    HasEscapedTag (coloured "red" s) := by
  rw [Markup.coloured_red]
  refine HasEscapedTag.append _ ?_
  rcases h with ⟨before, inside, back, rfl, htag⟩ | hlast
  · refine ⟨before, inside, back ++ Markup.redEnd, ?_, htag⟩
    rw [List.append_assoc, List.cons_append]
  · obtain ⟨before, rfl⟩ := List.getLast?_eq_some_iff.1 hlast
    refine ⟨before, "/red".toList, [], ?_, ?_⟩
    · rw [List.append_assoc, List.append_assoc]
      rfl
    exact ⟨⟨'/', "red".toList, by decide, Or.inr (by decide)⟩, by decide, by decide⟩

end Behind

/-! ## The console of the program -/

section OfWidth

variable {width : Width} {t out : List Char}

/-- What is printed has no more marks than the pieces of the text. -/
theorem count_print_le {a : Char} (ha : isMark a = true)
    (h : (Printer.ofWidth width).print t = .ok out) :
    out.count a ≤ (Markup.chars (Markup.pieces t)).count a := by
  have hprint : (Markup.render t).map (fun shown => width.layOut shown ++ ['\n']) = .ok out := h
  cases hrender : Markup.render t with
  | error crash =>
    rw [hrender] at hprint
    cases hprint
  | ok shown =>
    rw [hrender] at hprint
    cases hprint
    have hnewline : ['\n'].count a = 0 := count_of_unmarked ha (by decide)
    have hlayOut := count_layOut_le ha width shown
    have hshown := Markup.count_showPieces_le ha hrender
    rw [List.count_append]
    omega

/-- The tag itself and the tag that ends the red text lose their brackets. -/
theorem consumed_ofWidth (hs : HasTag s) (hlast : s.getLast? ≠ some '\\')
    (h : (Printer.ofWidth width).print (coloured "red" s) = .ok out) :
    out.count '[' < s.count '[' := by
  obtain ⟨front, inside, back, rfl, hfront, htag⟩ := hs
  have hback : back.getLast? ≠ some '\\' :=
    Markup.getLast?_ne_of_suffix hlast ((List.suffix_cons ']' back).trans (List.suffix_append _ _))
  have hprint := count_print_le (by decide : isMark '[' = true) h
  have hstart := Markup.count_pieces_append
    (Markup.tag?_of_isTag htag (back ++ Markup.redEnd)) hfront
  have hend := Markup.count_pieces_append Markup.tag?_redEnd hback
  have hnone : (Markup.chars (Markup.pieces [])).count '[' = 0 := by rw [Markup.pieces_nil]; rfl
  have hredEnd : back ++ '[' :: "/red".toList ++ ']' :: [] = back ++ Markup.redEnd := by
    rw [List.append_assoc]
    rfl
  have hsplit : front ++ '[' :: inside ++ ']' :: back ++ Markup.redEnd
      = front ++ '[' :: inside ++ ']' :: (back ++ Markup.redEnd) := by
    rw [List.append_assoc, List.cons_append]
  rw [Markup.pieces_coloured, hsplit, Markup.chars_cons_text, Markup.chars_cons_tag,
    List.nil_append] at hprint
  rw [hredEnd, hnone] at hend
  have hcount : (front ++ '[' :: inside ++ ']' :: back).count '['
      = front.count '[' + 1 + back.count '[' := by
    simp [List.count_append, List.count_eq_zero.2 htag.noOpen]
    omega
  omega

theorem unescaped_ofWidth (ht : HasEscapedTag t)
    (h : (Printer.ofWidth width).print t = .ok out) : out.count '\\' < t.count '\\' := by
  obtain ⟨front, inside, back, rfl, htag⟩ := ht
  have hprint := count_print_le (by decide : isMark '\\' = true) h
  have hlt := Markup.count_pieces_lt_of_escaped (Markup.tag?_of_isTag htag back) front
  omega

theorem unmatched_ofWidth (hs : ClosesNothing s) :
    (Printer.ofWidth width).print (coloured "red" s) = .error .markup := by
  obtain ⟨front, name, back, rfl, hbracket, hfront, hne, hred, hletters⟩ := hs
  have hname : ∀ c ∈ name, Markup.isInside c = true := by
    intro c hc
    exact Markup.isInside_of_startsTag (by simp [Markup.startsTag, hletters c hc])
  have hwhole : Markup.tagName ('/' :: name) = '/' :: name := by
    have hall : ∀ c ∈ '/' :: name, decide (c ≠ '=') = true := by
      refine List.forall_mem_cons.2 ⟨by decide, fun c hc => decide_eq_true ?_⟩
      rintro rfl
      exact absurd (hletters '=' hc) (by decide)
    have hrun := Text.takeWhile_run hall (Text.stopsAt_nil _)
    rwa [List.append_nil] at hrun
  have hclose : Markup.closeStyle? name [Style.normal "red".toList] = none := by
    have hname : Style.normal name ≠ Style.normal "red".toList := by
      have hnormal : Style.normal "red".toList = "red" := by decide +kernel
      rw [hnormal]
      exact Style.normal_ne_red hletters hne hred
    rw [Markup.closeStyle?, Style.trimBlanks_of_letters hletters, if_neg hne, if_neg]
    simpa using hname
  show (Markup.render _).map _ = _
  rw [Markup.render_unmatched hbracket hfront hname hwhole hclose]
  rfl

/-- The console of the program takes markup as it is relied on to do. -/
theorem lawful_ofWidth (width : Width) : (Printer.ofWidth width).Lawful where
  consumed _ _ hs hlast h := consumed_ofWidth hs hlast h
  unescaped _ _ ht h := unescaped_ofWidth ht h
  unmatched _ hs := unmatched_ofWidth hs
  untouched s hs := by
    obtain ⟨htag, hescaped, hlast⟩ : ¬HasTag s ∧ ¬HasEscapedTag s ∧ s.getLast? ≠ some '\\' := by
      simpa [Marked, not_or] using hs
    show Markup.escape s = s
    rw [Markup.escape_eq hlast, Markup.escapeTags_of_tagless htag hescaped]
  escaped s hlast := by
    obtain ⟨shown, hshown⟩ := Markup.render_escape hlast
    refine ⟨width.layOut shown ++ ['\n'], ?_⟩
    show (Markup.render (coloured "red" (Markup.escape s))).map _ = _
    rw [hshown]
    rfl

end OfWidth
end ToolBindings.Console
