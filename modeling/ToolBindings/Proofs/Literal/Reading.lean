import ToolBindings.Literal.Lexer
import ToolBindings.Literal.Printer
import ToolBindings.Proofs.Data.Tokens
import ToolBindings.Proofs.Data.Numerals
import ToolBindings.Proofs.Literal.Quoted

/-!
# Literals read back

The literal of data is cut into the tokens of this data, a bare name in the place of every number that
is not finite (`cuts_print`). So it reads as this data again, up to whatever follows it, or ends at
the first such name (`read_print_eq`).
-/

namespace ToolBindings.Literal

/-! ## What may follow -/

/-- No character that would continue a number or a name. -/
def Ends (rest : List Char) : Prop :=
  Text.StopsAt isNumberChar rest ∧ Text.StopsAt isNameChar rest

/-- What stands behind a literal in generated source: the end of a call, a list or a map, the comma
behind an element, the colon behind a key, or the end of a line. -/
def delimiters : List Char := [')', ']', '\x7d', ',', ':', '\n']

theorem ends_delimiter {d : Char} (hd : d ∈ delimiters) (rest : List Char) : Ends (d :: rest) := by
  have hall : ∀ c ∈ delimiters, (!isNumberChar c && !isNameChar c) = true :=
    List.all_eq_true.1 rfl
  simpa [Ends] using hall d hd

/-! ## Tokens -/

section

variable {s rest : List Char}

/-- A blank is passed over. -/
theorem next?_blank {c : Char} (hc : isBlank c = true) (s : List Char) :
    lexer.next? (c :: s) = lexer.next? s := by
  show token? ((c :: s).dropWhile isBlank) = token? (s.dropWhile isBlank)
  rw [List.dropWhile_cons_of_pos hc]

theorem next?_eq_token? {c : Char} (hc : isBlank c = false) (s : List Char) :
    lexer.next? (c :: s) = token? (c :: s) := by
  show token? ((c :: s).dropWhile isBlank) = _
  rw [List.dropWhile_cons_of_neg (by simp [hc])]

theorem next?_mark {c : Char} (hc : isMark c = true) (s : List Char) :
    lexer.next? (c :: s) = some (.mark c, s) := by
  have hblank : isBlank c = false := by
    simp only [isMark, Bool.or_eq_true, beq_iff_eq] at hc
    rcases hc with (((((((h | h) | h) | h) | h) | h) | h) | h) | h <;> subst h <;> rfl
  rw [next?_eq_token? hblank, token?, if_pos hc]

/-- Blanks do not change which tokens follow. -/
theorem cuts_blank {c : Char} (hc : isBlank c = true) {ts : List Token} (hts : ts ≠ [])
    (h : lexer.Cuts s ts rest) : lexer.Cuts (c :: s) ts rest :=
  h.of_next?_eq (next?_blank hc s) hts

/-- A mark in front of tokens. -/
theorem cuts_mark {c : Char} (hc : isMark c = true) {ts : List Token}
    (h : lexer.Cuts s ts rest) : lexer.Cuts (c :: s) (.mark c :: ts) rest :=
  h.cons (next?_mark hc s)

/-- A quoted text is one token. -/
theorem next?_quoted (s : String) (rest : List Char) :
    lexer.next? (quoted s ++ rest) = some (.scalar (.text s), rest) := by
  have hquote := quoteOf_eq s.toList
  have hbody := body?_escaped hquote s.toList rest
  generalize hq : quoteOf s.toList = quote at hquote hbody
  have htext : quoted s ++ rest
      = quote :: (s.toList.flatMap (escapeChar quote) ++ quote :: rest) := by
    simp [quoted, hq]
  have hblank : isBlank quote = false := by
    rcases hquote with rfl | rfl <;> rfl
  have hmark : isMark quote = false := by
    rcases hquote with rfl | rfl <;> rfl
  rw [htext, next?_eq_token? hblank, token?, if_neg (by simp [hmark]), if_pos hquote, hbody]
  simp only [String.ofList_toList]

/-- A proper numeral after an optional minus is the word of its number. -/
theorem number?_of_spells {negative : Bool} {s : List Char} {v : Json}
    (h : Numeral.Spells negative s v) :
    number? (Numeral.minus negative ++ s) = some (.scalar v) := by
  obtain ⟨n, hread, hproper, rfl⟩ := h
  obtain ⟨c, rest, rfl, hc⟩ := Numeral.exists_digit_of_unsigned? hread hproper.1
  have hminus : c ≠ '-' := by
    rintro rfl
    cases hc
  have hletters : ¬((c :: rest).all Char.isAlpha = true ∧ c :: rest ≠ []) := by
    rintro ⟨hall, -⟩
    rw [List.all_cons, Bool.and_eq_true] at hall
    exact Text.not_isAlpha_of_isDigit hc hall.1
  have hwhole : n.whole.isEmpty = false := List.isEmpty_eq_false_iff.2 hproper.1
  cases negative with
  | true =>
    show number? ('-' :: c :: rest) = _
    simp only [number?, if_neg hletters, hread, hwhole, Numeral.value]
    cases n.toInt? <;> rfl
  | false =>
    show number? (c :: rest) = _
    rw [number?]
    · simp only [if_neg hletters, hread, hwhole, Numeral.value]
      cases n.toInt? <;> rfl
    · intro word heq
      exact hminus (List.cons.inj heq).1

/-- A character of names, or a minus, starts no other token than a word. -/
private theorem starts_word {c : Char} (hc : isNameChar c = true ∨ c = '-') :
    isBlank c = false ∧ isMark c = false ∧ ¬(c = '\'' ∨ c = '"') := by
  refine ⟨?_, ?_, ?_⟩
  · rw [Bool.eq_false_iff]
    intro h
    simp only [isBlank, Bool.or_eq_true, beq_iff_eq] at h
    rcases h with rfl | rfl <;> revert hc <;> decide
  · rw [Bool.eq_false_iff]
    intro h
    simp only [isMark, Bool.or_eq_true, beq_iff_eq] at h
    rcases h with (((((((rfl | rfl) | rfl) | rfl) | rfl) | rfl) | rfl) | rfl) | rfl <;>
      revert hc <;> decide
  · rintro (rfl | rfl) <;> revert hc <;> decide

/-- A number is one token. -/
theorem next?_number {negative : Bool} {s rest : List Char} {v : Json}
    (h : Numeral.Spells negative s v) (hrest : Ends rest) :
    lexer.next? (Numeral.minus negative ++ s ++ rest) = some (.scalar v, rest) := by
  have hnumber := number?_of_spells h
  have hchars : ∀ c ∈ Numeral.minus negative ++ s, isNumberChar c = true := by
    apply Numeral.forall_mem_of_spells _ rfl h
    intro c hc
    simp [isNumberChar, Char.isAlphanum, hc]
  obtain ⟨c, word, hword, hc⟩ : ∃ c word, Numeral.minus negative ++ s = c :: word ∧
      (c.isDigit = true ∨ c = '-') := by
    obtain ⟨n, hread, hproper, -⟩ := h
    obtain ⟨c, more, rfl, hc⟩ := Numeral.exists_digit_of_unsigned? hread hproper.1
    cases negative with
    | true => exact ⟨'-', c :: more, rfl, Or.inr rfl⟩
    | false => exact ⟨c, more, rfl, Or.inl hc⟩
  rw [hword] at hnumber hchars ⊢
  have hplain := starts_word (c := c) (by
    rcases hc with hc | rfl
    · exact Or.inl (by simp [isNameChar, Char.isAlphanum, hc])
    · exact Or.inr rfl)
  have hrun : ∀ d ∈ word, isNumberChar d = true :=
    fun d hd => hchars d (List.mem_cons_of_mem c hd)
  rw [List.cons_append, next?_eq_token? hplain.1, token?, if_neg (by simp [hplain.2.1]),
    if_neg hplain.2.2, if_pos hc, Text.takeWhile_run hrun hrest.1, Text.dropWhile_run hrun hrest.1,
    hnumber]

/-- A name is one token. -/
theorem next?_name {c : Char} {name rest : List Char} (hc : isNameChar c = true)
    (hdigit : c.isDigit = false) (hname : ∀ d ∈ name, isNameChar d = true)
    (hrest : Text.StopsAt isNameChar rest) :
    lexer.next? (c :: name ++ rest) = some (word (String.ofList (c :: name)), rest) := by
  have hplain := starts_word (Or.inl hc)
  have hnumber : ¬(c.isDigit = true ∨ c = '-') := by
    rintro (h | rfl)
    · rw [hdigit] at h
      cases h
    · revert hc
      decide
  rw [List.cons_append, next?_eq_token? hplain.1, token?, if_neg (by simp [hplain.2.1]),
    if_neg hplain.2.2, if_neg hnumber, if_pos hc, Text.takeWhile_run hname hrest,
    Text.dropWhile_run hname hrest]

/-- A minus before a name is left out. -/
theorem next?_minusInfinity (hrest : Ends rest) :
    lexer.next? ("-inf".toList ++ rest) = some (.name "inf", rest) := by
  have hrun : ∀ c ∈ "inf".toList, isNumberChar c = true := List.all_eq_true.1 rfl
  show token? ('-' :: ("inf".toList ++ rest)) = _
  rw [token?, if_neg (by decide), if_neg (by decide), if_pos (Or.inr rfl),
    Text.takeWhile_run hrun hrest.1, Text.dropWhile_run hrun hrest.1]
  rfl

/-- A key and what comes after it. -/
theorem cuts_entry (key : String) {after : List Char} {ts : List Token} (hts : ts ≠ [])
    (h : lexer.Cuts s ts after) :
    lexer.Cuts (quoted key ++ ':' :: ' ' :: s) (.scalar (.text key) :: .mark ':' :: ts) after :=
  (cuts_mark rfl (cuts_blank rfl hts h)).cons (next?_quoted key _)

end

/-! ## Bare names -/

section

/-- The name that stands in the text for a number that is not finite. -/
def bareName? : Token → Option String
  | .scalar (.float (.infinite _)) => some "inf"
  | .scalar (.float .nan) => some "nan"
  | _ => none

/-- The token that is cut off the text of a token. -/
def asWritten (t : Token) : Token :=
  match bareName? t with
  | some name => .name name
  | none => t

@[simp] theorem bareName?_mark (c : Char) : bareName? (.mark c) = none := rfl

@[simp] theorem bareName?_text (s : String) : bareName? (.scalar (.text s)) = none := rfl

@[simp] theorem asWritten_mark (c : Char) : asWritten (.mark c) = .mark c := rfl

@[simp] theorem asWritten_name (name : String) : asWritten (.name name) = .name name := rfl

@[simp] theorem asWritten_text (s : String) :
    asWritten (.scalar (.text s)) = .scalar (.text s) := rfl

theorem bareName?_eq_some {t : Token} {name : String} (h : bareName? t = some name) :
    (name = "inf" ∨ name = "nan") ∧ ∃ x, t = .scalar (.float x) := by
  unfold bareName? at h
  split at h
  · exact ⟨Or.inl (Option.some.inj h).symm, _, rfl⟩
  · exact ⟨Or.inr (Option.some.inj h).symm, _, rfl⟩
  · cases h

section

variable (ts : List Token)

@[simp] theorem findSome?_mark (c : Char) :
    (Token.mark c :: ts).findSome? bareName? = ts.findSome? bareName? := rfl

@[simp] theorem findSome?_name (name : String) :
    (Token.name name :: ts).findSome? bareName? = ts.findSome? bareName? := rfl

@[simp] theorem findSome?_text (s : String) :
    (Token.scalar (.text s) :: ts).findSome? bareName? = ts.findSome? bareName? := rfl

end

/-- A reader for which a name is a fault wherever a number is none. -/
def RefusesNames {σ α : Type} (step : σ → Token → Outcome σ α) : Prop :=
  ∀ standing x name, (∃ reason, step standing (.scalar (.float x)) = .fault reason) ∨
    step standing (.name name) = .fault (.unbound name)

theorem refusesNames_assembly : RefusesNames Assembly.step := by
  intro a x name
  match a with
  | .beforeValue _ | .openedList _ => exact Or.inr rfl
  | .openedMap _ | .beforeKey _ _ | .beforeColon _ _ _ | .afterElement (.list _) _
  | .afterElement (.map _) _ => exact Or.inl ⟨_, rfl⟩

variable {σ α : Type} {step : σ → Token → Outcome σ α}

/-- Tokens that are no fault are one as they are written if there is a bare name among them, and the
first of these is to blame. -/
theorem feed_asWritten (hstep : RefusesNames step) {standing : σ} {ts : List Token}
    (hgood : ∀ reason, Outcome.feed step (.more standing) ts ≠ .fault reason) :
    Outcome.feed step (.more standing) (ts.map asWritten)
      = match ts.findSome? bareName? with
        | some name => .fault (.unbound name)
        | none => Outcome.feed step (.more standing) ts := by
  -- up to the first bare name both readings stand alike, and there only the one with the number goes on
  induction ts generalizing standing with
  | nil => rfl
  | cons t ts ih =>
    rw [Outcome.feed_more_cons] at hgood
    rw [List.map_cons, List.findSome?_cons, Outcome.feed_more_cons, Outcome.feed_more_cons, asWritten]
    cases hbare : bareName? t with
    | some name =>
      obtain ⟨-, x, rfl⟩ := bareName?_eq_some hbare
      rcases hstep standing x name with ⟨reason, hfault⟩ | hname
      · rw [hfault] at hgood
        exact absurd (Outcome.feed_fault step reason ts) (hgood reason)
      · dsimp only
        rw [hname, Outcome.feed_fault]
    | none =>
      dsimp only
      cases hnext : step standing t with
      | more next =>
        rw [hnext] at hgood
        exact ih hgood
      | finished value =>
        rw [hnext] at hgood
        cases ts with
        | nil => rfl
        | cons u us => exact absurd rfl (hgood .malformed)
      | fault reason =>
        rw [hnext] at hgood
        exact absurd (Outcome.feed_fault step reason ts) (hgood reason)

/-- The result of a reading, unless there is a name without meaning to end it. -/
def unlessUnbound (name? : Option String) (result : α) : Except ReadFault α :=
  match name? with
  | some name => .error (.unbound name)
  | none => .ok result

/-- A run over a text that is cut into the tokens of a whole reading gives the result, unless there is
a bare name among them. -/
theorem run_asWritten (hstep : RefusesNames step) {standing : σ} {ts : List Token}
    {s rest : List Char} {value : α} (hcuts : lexer.Cuts s (ts.map asWritten) rest)
    (hfeed : Outcome.feed step (.more standing) ts = .finished value) :
    lexer.run step standing s = unlessUnbound (ts.findSome? bareName?) (value, rest) := by
  have hgood : ∀ reason, Outcome.feed step (.more standing) ts ≠ .fault reason := by
    rw [hfeed]
    exact nofun
  have hwritten := feed_asWritten hstep hgood
  cases hbare : ts.findSome? bareName? with
  | some name =>
    rw [hbare] at hwritten
    exact Lexer.run_of_feed hcuts hwritten nofun
  | none =>
    rw [hbare] at hwritten
    exact Lexer.run_of_feed hcuts (hwritten.trans hfeed) nofun

end

/-! ## Data -/

/-- The first name in the literal of a value to which nothing is bound. -/
def unbound? (v : Json) : Option String := v.tokens.findSome? bareName?

mutual

private theorem bareName?_tokens : ∀ v : Json,
    (∀ t ∈ v.tokens, bareName? t = none) ↔ v.allFinite = true
  | .null | .bool _ | .int _ | .text _ => by simp [Data.tokens, bareName?, Data.allFinite]
  | .float (.finite _ _) | .float (.infinite _) | .float .nan => by
    simp [Data.tokens, bareName?, Data.allFinite, Binary64.isFinite]
  | .list [] => by simp [Data.tokens, Data.allFinite, Data.allFiniteList]
  | .map [] => by simp [Data.tokens, Data.allFinite, Data.allFiniteFields]
  | .list (item :: items) => by
    have hitem := bareName?_tokens item
    have hitems := bareName?_tokensItems items
    simp [Data.tokens, Data.allFinite, Data.allFiniteList, or_imp, forall_and, hitem, hitems]
  | .map ((_, value) :: fields) => by
    have hvalue := bareName?_tokens value
    have hfields := bareName?_tokensFields fields
    simp [Data.tokens, Data.allFinite, Data.allFiniteFields, or_imp, forall_and, hvalue, hfields]

private theorem bareName?_tokensItems : ∀ items : List Json,
    (∀ t ∈ Data.tokensItems items, bareName? t = none) ↔ Data.allFiniteList items = true
  | [] => by simp [Data.tokensItems, Data.allFiniteList]
  | item :: items => by
    have hitem := bareName?_tokens item
    have hitems := bareName?_tokensItems items
    simp [Data.tokensItems, Data.allFiniteList, or_imp, forall_and, hitem, hitems]

private theorem bareName?_tokensFields : ∀ fields : List (String × Json),
    (∀ t ∈ Data.tokensFields fields, bareName? t = none) ↔ Data.allFiniteFields fields = true
  | [] => by simp [Data.tokensFields, Data.allFiniteFields]
  | (_, value) :: fields => by
    have hvalue := bareName?_tokens value
    have hfields := bareName?_tokensFields fields
    simp [Data.tokensFields, Data.allFiniteFields, or_imp, forall_and, hvalue, hfields]

end

/-- Exactly the numbers that are not finite are bare names. -/
theorem unbound?_eq_none {v : Json} : unbound? v = none ↔ v.allFinite = true := by
  rw [unbound?, List.findSome?_eq_none_iff]
  exact bareName?_tokens v

theorem findSome?_unbound?_eq_none {values : List Json} :
    values.findSome? unbound? = none ↔ ∀ v ∈ values, v.allFinite = true := by
  simp only [List.findSome?_eq_none_iff, unbound?_eq_none]

private theorem ends_printItems (items : List Json) {rest : List Char} (hrest : Ends rest) :
    Ends (printItems items ++ rest) := by
  cases items with
  | nil => exact hrest
  | cons item items => exact ends_delimiter (by decide) _

private theorem ends_printFields (fields : List (String × Json)) {rest : List Char}
    (hrest : Ends rest) : Ends (printFields fields ++ rest) := by
  cases fields with
  | nil => exact hrest
  | cons field fields => exact ends_delimiter (by decide) _

theorem tokens_asWritten_ne_nil (v : Json) : v.tokens.map asWritten ≠ [] :=
  fun h => Data.tokens_ne_nil v (List.map_eq_nil_iff.1 h)

mutual

/-- The literal of data is cut into the tokens of the data as they are written. -/
theorem cuts_print {rest : List Char} (hrest : Ends rest) :
    ∀ v : Json, lexer.Cuts (print v ++ rest) (v.tokens.map asWritten) rest
  | .null => Lexer.cuts_one (next?_name rfl rfl (List.all_eq_true.1 rfl) hrest.2)
  | .bool true => Lexer.cuts_one (next?_name rfl rfl (List.all_eq_true.1 rfl) hrest.2)
  | .bool false => Lexer.cuts_one (next?_name rfl rfl (List.all_eq_true.1 rfl) hrest.2)
  | .int i => by
    rw [print, Numeral.decimalInt_eq]
    exact Lexer.cuts_one (next?_number (Numeral.spells_int i) hrest)
  | .float (.finite negative x) =>
    Lexer.cuts_one (next?_number (Numeral.spells_finite negative x) hrest)
  | .float (.infinite true) => Lexer.cuts_one (next?_minusInfinity hrest)
  | .float (.infinite false) =>
    Lexer.cuts_one (next?_name rfl rfl (List.all_eq_true.1 rfl) hrest.2)
  | .float .nan => Lexer.cuts_one (next?_name rfl rfl (List.all_eq_true.1 rfl) hrest.2)
  | .text s => Lexer.cuts_one (next?_quoted s rest)
  | .list [] => cuts_mark rfl (cuts_mark rfl Lexer.cuts_nil)
  | .map [] => cuts_mark rfl (cuts_mark rfl Lexer.cuts_nil)
  | .list (item :: items) => by
    have hbracket := ends_delimiter (d := ']') (by decide) rest
    have hitem := cuts_print (ends_printItems items hbracket) item
    have hitems := cuts_printItems hbracket items
    have hend : lexer.Cuts (']' :: rest) [.mark ']'] rest := cuts_mark rfl Lexer.cuts_nil
    have hall := cuts_mark (c := '[') rfl ((hitem.append hitems).append hend)
    simpa [print, Data.tokens] using hall
  | .map ((key, value) :: fields) => by
    have hbrace := ends_delimiter (d := '\x7d') (by decide) rest
    have hvalue := cuts_print (ends_printFields fields hbrace) value
    have hfields := cuts_printFields hbrace fields
    have hend : lexer.Cuts ('\x7d' :: rest) [.mark '\x7d'] rest := cuts_mark rfl Lexer.cuts_nil
    have hentry := cuts_entry key (tokens_asWritten_ne_nil value) hvalue
    have hall := cuts_mark (c := '\x7b') rfl ((hentry.append hfields).append hend)
    simpa [print, Data.tokens] using hall

/-- The items after the first are cut into their tokens. -/
theorem cuts_printItems {rest : List Char} (hrest : Ends rest) : ∀ items : List Json,
    lexer.Cuts (printItems items ++ rest) ((Data.tokensItems items).map asWritten) rest
  | [] => Lexer.cuts_nil
  | item :: items => by
    have hitem := cuts_print (ends_printItems items hrest) item
    have hitems := cuts_printItems hrest items
    have hblank := cuts_blank (c := ' ') rfl (tokens_asWritten_ne_nil item) hitem
    have hall := cuts_mark (c := ',') rfl (hblank.append hitems)
    simpa [printItems, Data.tokensItems] using hall

/-- The fields after the first are cut into their tokens. -/
theorem cuts_printFields {rest : List Char} (hrest : Ends rest) : ∀ fields : List (String × Json),
    lexer.Cuts (printFields fields ++ rest) ((Data.tokensFields fields).map asWritten) rest
  | [] => Lexer.cuts_nil
  | (key, value) :: fields => by
    have hvalue := cuts_print (ends_printFields fields hrest) value
    have hfields := cuts_printFields hrest fields
    have hentry := cuts_entry key (tokens_asWritten_ne_nil value) hvalue
    have hblank := cuts_blank (c := ' ') rfl (List.cons_ne_nil _ _) hentry
    have hall := cuts_mark (c := ',') rfl (hblank.append hfields)
    simpa [printFields, Data.tokensFields] using hall

end

/-- The literal of data reads as the data, or ends at its first bare name. -/
theorem read_print_eq {v : Json} (hkeys : v.distinctKeys = true) {rest : List Char}
    (hrest : Ends rest) : read (print v ++ rest) = unlessUnbound (unbound? v) (v, rest) :=
  run_asWritten refusesNames_assembly (cuts_print hrest v) (Assembly.feed_tokens [] v hkeys)

/-- The literal of data without infinities reads as the data. -/
theorem read_print {v : Json} (hkeys : v.distinctKeys = true) (hfinite : v.allFinite = true)
    {rest : List Char} (hrest : Ends rest) : read (print v ++ rest) = .ok (v, rest) := by
  rw [read_print_eq hkeys hrest, unbound?_eq_none.2 hfinite, unlessUnbound]

end ToolBindings.Literal
