import ToolBindings.Proofs.Data.Numerals
import ToolBindings.Proofs.Data.Tokens
import ToolBindings.Proofs.Json.Quoted

/-!
# JSON text read back

In every style that puts only blanks beside its commas and colons, the text of data is cut into the
tokens of the data, and so reads as the data again (`read?_print`). Numbers without digits are written
as words that the reader knows, so nothing is asked of the numbers. Texts may be of any kind of which
the reader takes each in quotes as one token (`Quotes`), such as texts with halves of pairs, written
as escapes (`decode?_printLoose`).
-/

namespace ToolBindings.Json

/-! ## Styles -/

/-- Nothing but blanks stands beside the commas and colons. -/
structure Style.IsReadable (style : Style) : Prop where
  comma : ∃ blanks, style.comma = ',' :: blanks ∧ ∀ c ∈ blanks, isBlank c = true
  colon : ∃ blanks, style.colon = ':' :: blanks ∧ ∀ c ∈ blanks, isBlank c = true

theorem Style.isReadable_asciiLine : asciiLine.IsReadable :=
  ⟨⟨_, rfl, List.all_eq_true.1 rfl⟩, ⟨_, rfl, List.all_eq_true.1 rfl⟩⟩

theorem Style.isReadable_compact : compact.IsReadable :=
  ⟨⟨_, rfl, List.all_eq_true.1 rfl⟩, ⟨_, rfl, List.all_eq_true.1 rfl⟩⟩

theorem Style.isReadable_indented : indented.IsReadable :=
  ⟨⟨_, rfl, List.all_eq_true.1 rfl⟩, ⟨_, rfl, List.all_eq_true.1 rfl⟩⟩

theorem isBlank_of_mem_newline {style : Style} {depth : Nat} :
    ∀ c ∈ newline style depth, isBlank c = true := by
  intro c hc
  rw [newline] at hc
  split at hc
  · cases hc
  · rcases List.mem_cons.1 hc with rfl | hc
    · rfl
    · rw [List.eq_of_mem_replicate hc]
      rfl

/-! ## Tokens -/

variable {τ : Type}

section

variable {text : List Nat → τ} {s rest : List Char}

theorem next?_blanks {blanks : List Char} (hblanks : ∀ c ∈ blanks, isBlank c = true)
    (s : List Char) : (lexer text).next? (blanks ++ s) = (lexer text).next? s := by
  show token? text ((blanks ++ s).dropWhile isBlank) = token? text (s.dropWhile isBlank)
  rw [List.dropWhile_append_of_pos hblanks]

theorem next?_eq_token? {c : Char} (hc : isBlank c = false) (s : List Char) :
    (lexer text).next? (c :: s) = token? text (c :: s) := by
  show token? text ((c :: s).dropWhile isBlank) = _
  rw [List.dropWhile_cons_of_neg (by simp [hc])]

theorem next?_mark {c : Char} (hc : isMark c = true) (s : List Char) :
    (lexer text).next? (c :: s) = some (.mark c, s) := by
  have hblank : isBlank c = false := by
    simp only [isMark, Bool.or_eq_true, beq_iff_eq] at hc
    rcases hc with ((((h | h) | h) | h) | h) | h <;> subst h <;> rfl
  rw [next?_eq_token? hblank, token?, if_pos hc]

/-- Blanks do not change which tokens follow. -/
theorem cuts_blanks {blanks : List Char} (hblanks : ∀ c ∈ blanks, isBlank c = true)
    {ts : List (Token τ)} (hts : ts ≠ []) (h : (lexer text).Cuts s ts rest) :
    (lexer text).Cuts (blanks ++ s) ts rest :=
  h.of_next?_eq (next?_blanks hblanks s) hts

/-- A mark in front of tokens. -/
theorem cuts_mark {c : Char} (hc : isMark c = true) {ts : List (Token τ)}
    (h : (lexer text).Cuts s ts rest) : (lexer text).Cuts (c :: s) (.mark c :: ts) rest :=
  h.cons (next?_mark hc s)

/-- What stands between two quotes is one token. -/
private theorem next?_quotes (text : List Nat → τ) (ascii : Bool) (points : List CodePoint)
    (rest : List Char) :
    (lexer text).next? ('"' :: points.flatMap (escapedPoint ascii) ++ '"' :: rest)
      = some (.scalar (.text (text (points.flatMap (pointUnits ascii)))), rest) := by
  rw [List.cons_append, next?_eq_token? rfl, token?, if_neg (by decide), if_pos rfl,
    units?_escaped]

/-- A word is one token. -/
theorem next?_word {c : Char} {word rest : List Char} {v : Data τ τ}
    (hword : ∀ d ∈ c :: word, isWordChar d = true) (hvalue : word? (c :: word) = some v)
    (hrest : Text.StopsAt isWordChar rest) :
    (lexer text).next? (c :: word ++ rest) = some (.scalar v, rest) := by
  have hc := hword c List.mem_cons_self
  have hrun : ∀ d ∈ word, isWordChar d = true := fun d hd => hword d (List.mem_cons_of_mem c hd)
  have hblank : isBlank c = false := by
    rw [Bool.eq_false_iff]
    intro h
    simp only [isBlank, Bool.or_eq_true, beq_iff_eq] at h
    rcases h with ((rfl | rfl) | rfl) | rfl <;> revert hc <;> decide
  have hmark : isMark c = false := by
    rw [Bool.eq_false_iff]
    intro h
    simp only [isMark, Bool.or_eq_true, beq_iff_eq] at h
    rcases h with ((((rfl | rfl) | rfl) | rfl) | rfl) | rfl <;> revert hc <;> decide
  have hquote : c ≠ '"' := by
    rintro rfl
    revert hc
    decide
  rw [List.cons_append, next?_eq_token? hblank, token?, if_neg (by simp [hmark]), if_neg hquote,
    if_pos hc, Text.takeWhile_run hrun hrest, Text.dropWhile_run hrun hrest, hvalue]

end

/-! ## Texts -/

/-- The reader takes the texts as they are put in quotes. -/
def Quotes (text : List Nat → τ) (quoted : τ → List Char) : Prop :=
  ∀ s rest, (lexer text).next? (quoted s ++ rest) = some (.scalar (.text s), rest)

theorem quotes_quote (ascii : Bool) : Quotes shownText (quote ascii) := by
  intro s rest
  have hnext := next?_quotes shownText ascii (s.toList.map .char) rest
  rw [shownText_units, List.flatMap_map] at hnext
  rw [quote, List.append_assoc]
  exact hnext

/-- A text in quotes, with an escape for each half of a pair. -/
def quoteEscaped (ascii : Bool) (s : LooseText) : List Char :=
  '"' :: s.points.flatMap (escapedPoint ascii) ++ ['"']

theorem quotes_quoteEscaped (ascii : Bool) : Quotes looseText (quoteEscaped ascii) := by
  intro s rest
  have hnext := next?_quotes looseText ascii s.points rest
  rw [looseText_units] at hnext
  rw [quoteEscaped, List.append_assoc]
  exact hnext

/-! ## Numbers -/

/-- A proper numeral after an optional minus is the word of its number. -/
theorem number?_of_spells {negative : Bool} {s : List Char} {v : Data τ τ}
    (h : Numeral.Spells negative s v) : number? (Numeral.minus negative ++ s) = some v := by
  obtain ⟨n, hread, hproper, rfl⟩ := h
  obtain ⟨c, rest, rfl, hc⟩ := Numeral.exists_digit_of_unsigned? hread hproper.1
  have hminus : c ≠ '-' := by
    rintro rfl
    cases hc
  have hproper : ¬(n.whole.isEmpty = true ∨ (n.whole.head? = some '0' ∧ n.whole.length ≠ 1) ∨
      n.fraction = some []) := by
    rintro (h | h | h)
    · exact hproper.1 (List.isEmpty_iff.1 h)
    · exact h.2 (hproper.2.1 h.1)
    · exact hproper.2.2 h
  cases negative with
  | true =>
    show number? ('-' :: c :: rest) = _
    simp only [number?, hread, if_neg hproper, Numeral.value]
    cases n.toInt? <;> rfl
  | false =>
    show number? (c :: rest) = _
    rw [number?]
    · simp only [hread, if_neg hproper, Numeral.value]
      cases n.toInt? <;> rfl
    · intro word heq
      exact hminus (List.cons.inj heq).1

/-- A word with a digit at its front or behind a minus is none of the words for other values. -/
private theorem word?_eq_number? {negative : Bool} {c : Char} {more : List Char}
    (hc : c.isDigit = true) :
    (word? (Numeral.minus negative ++ c :: more) : Option (Data τ τ))
      = number? (Numeral.minus negative ++ c :: more) := by
  have hinfinity : Numeral.minus negative ++ c :: more ≠ "-Infinity".toList := by
    intro heq
    cases negative with
    | true =>
      obtain ⟨-, rfl, -⟩ := heq
      cases hc
    | false =>
      obtain ⟨rfl, -⟩ := heq
      cases hc
  -- no other word starts with a digit or a minus
  have hother : ∀ d ds, (d.isDigit || d == '-') = false →
      Numeral.minus negative ++ c :: more ≠ d :: ds := by
    rintro d ds hd heq
    rw [Bool.or_eq_false_iff, beq_eq_false_iff_ne] at hd
    cases negative with
    | true => exact hd.2 (List.cons.inj heq).1.symm
    | false =>
      have hfirst : c = d := (List.cons.inj heq).1
      rw [hfirst, hd.1] at hc
      cases hc
  have hnull : Numeral.minus negative ++ c :: more ≠ "null".toList := hother _ _ (by decide)
  have htrue : Numeral.minus negative ++ c :: more ≠ "true".toList := hother _ _ (by decide)
  have hfalse : Numeral.minus negative ++ c :: more ≠ "false".toList := hother _ _ (by decide)
  have hnan : Numeral.minus negative ++ c :: more ≠ "NaN".toList := hother _ _ (by decide)
  have hinf : Numeral.minus negative ++ c :: more ≠ "Infinity".toList := hother _ _ (by decide)
  rw [word?, if_neg hnull, if_neg htrue, if_neg hfalse, if_neg hnan, if_neg hinf, if_neg hinfinity]

/-- A number is one token. -/
theorem next?_number {text : List Nat → τ} {negative : Bool} {s rest : List Char}
    {v : Data τ τ}
    (h : Numeral.Spells negative s v) (hrest : Text.StopsAt isWordChar rest) :
    (lexer text).next? (Numeral.minus negative ++ s ++ rest) = some (.scalar v, rest) := by
  have hnumber := number?_of_spells h
  have hchars : ∀ d ∈ Numeral.minus negative ++ s, isWordChar d = true := by
    apply Numeral.forall_mem_of_spells _ rfl h
    intro d hd
    simp [isWordChar, Char.isAlphanum, hd]
  obtain ⟨n, hread, hproper, -⟩ := h
  obtain ⟨c, more, rfl, hc⟩ := Numeral.exists_digit_of_unsigned? hread hproper.1
  rw [← word?_eq_number? hc] at hnumber
  cases negative with
  | true => exact next?_word hchars hnumber hrest
  | false => exact next?_word hchars hnumber hrest

/-! ## Data -/

section

variable {text : List Nat → τ} (quoted : τ → List Char) (style : Style) (depth : Nat)
  {rest : List Char}

private theorem stopsAt_newline (hrest : Text.StopsAt isWordChar rest) :
    Text.StopsAt isWordChar (newline style depth ++ rest) := by
  rw [newline]
  split
  · exact hrest
  · rfl

variable {s : List Char} {ts : List (Token τ)}

/-- Tokens on a new line. -/
private theorem cuts_newline (hts : ts ≠ []) (h : (lexer text).Cuts s ts rest) :
    (lexer text).Cuts (newline style depth ++ s) ts rest :=
  cuts_blanks isBlank_of_mem_newline hts h

variable {style}

private theorem stopsAt_printItems (hstyle : style.IsReadable) (items : List (Data τ τ))
    (hrest : Text.StopsAt isWordChar rest) :
    Text.StopsAt isWordChar (printItems (.chars quoted) style depth items ++ rest) := by
  cases items with
  | nil => exact hrest
  | cons item items =>
    obtain ⟨blanks, hcomma, -⟩ := hstyle.comma
    rw [printItems, hcomma]
    rfl

private theorem stopsAt_printFields (hstyle : style.IsReadable)
    (fields : List (τ × Data τ τ)) (hrest : Text.StopsAt isWordChar rest) :
    Text.StopsAt isWordChar (printFields (.chars quoted) style depth fields ++ rest) := by
  cases fields with
  | nil => exact hrest
  | cons field fields =>
    obtain ⟨blanks, hcomma, -⟩ := hstyle.comma
    rw [printFields, hcomma]
    rfl

/-- Tokens after a comma. -/
private theorem cuts_comma (hstyle : style.IsReadable) (hts : ts ≠ [])
    (h : (lexer text).Cuts s ts rest) :
    (lexer text).Cuts (style.comma ++ (newline style depth ++ s)) (.mark ',' :: ts) rest := by
  obtain ⟨blanks, hcomma, hblanks⟩ := hstyle.comma
  rw [hcomma]
  exact cuts_mark rfl (cuts_blanks hblanks hts (cuts_newline style depth hts h))

/-- A key and what comes after it. -/
private theorem cuts_entry {quoted : τ → List Char} (hquoted : Quotes text quoted) (hstyle : style.IsReadable) (key : τ) (hts : ts ≠ [])
    (h : (lexer text).Cuts s ts rest) :
    (lexer text).Cuts (quoted key ++ (style.colon ++ s))
      (.scalar (.text key) :: .mark ':' :: ts) rest := by
  obtain ⟨blanks, hcolon, hblanks⟩ := hstyle.colon
  rw [hcolon]
  exact (cuts_mark rfl (cuts_blanks hblanks hts h)).cons (hquoted key _)

end

mutual

/-- The text of a value is cut into the tokens of the value. -/
theorem cuts_printAt {text : List Nat → τ} {quoted : τ → List Char}
    (hquoted : Quotes text quoted) {style : Style} (hstyle : style.IsReadable) (depth : Nat) {rest : List Char}
    (hrest : Text.StopsAt isWordChar rest) :
    ∀ v : Data τ τ, (lexer text).Cuts (printAt (.chars quoted) style depth v ++ rest) v.tokens rest
  | .null => Lexer.cuts_one (next?_word (List.all_eq_true.1 rfl) rfl hrest)
  | .bool true => Lexer.cuts_one (next?_word (List.all_eq_true.1 rfl) rfl hrest)
  | .bool false => Lexer.cuts_one (next?_word (List.all_eq_true.1 rfl) rfl hrest)
  | .int i => by
    rw [printAt, Numeral.decimalInt_eq]
    exact Lexer.cuts_one (next?_number (Numeral.spells_int i) hrest)
  | .float (.finite negative x) =>
    Lexer.cuts_one (next?_number (Numeral.spells_finite negative x) hrest)
  | .float (.infinite true) => Lexer.cuts_one (next?_word (List.all_eq_true.1 rfl) rfl hrest)
  | .float (.infinite false) => Lexer.cuts_one (next?_word (List.all_eq_true.1 rfl) rfl hrest)
  | .float .nan => Lexer.cuts_one (next?_word (List.all_eq_true.1 rfl) rfl hrest)
  | .text s => Lexer.cuts_one (hquoted s rest)
  | .list [] => cuts_mark rfl (cuts_mark rfl Lexer.cuts_nil)
  | .map [] => cuts_mark rfl (cuts_mark rfl Lexer.cuts_nil)
  | .list (item :: items) => by
    have hstop : Text.StopsAt isWordChar (newline style depth ++ ']' :: rest) :=
      stopsAt_newline style depth rfl
    have hitem := cuts_printAt hquoted hstyle (depth + 1) (stopsAt_printItems quoted (depth + 1) hstyle items hstop) item
    have hitems := cuts_printItems hquoted hstyle (depth + 1) hstop items
    have hend : (lexer text).Cuts (newline style depth ++ ']' :: rest) [.mark ']'] rest :=
      cuts_newline style depth (List.cons_ne_nil _ _) (cuts_mark rfl Lexer.cuts_nil)
    have hfirst := cuts_newline style (depth + 1) (Data.tokens_ne_nil item) hitem
    have hall := cuts_mark (c := '[') rfl ((hfirst.append hitems).append hend)
    simpa [printAt, Data.tokens] using hall
  | .map ((key, value) :: fields) => by
    have hstop : Text.StopsAt isWordChar (newline style depth ++ '\x7d' :: rest) :=
      stopsAt_newline style depth rfl
    have hvalue := cuts_printAt hquoted hstyle (depth + 1) (stopsAt_printFields quoted (depth + 1) hstyle fields hstop) value
    have hfields := cuts_printFields hquoted hstyle (depth + 1) hstop fields
    have hend : (lexer text).Cuts (newline style depth ++ '\x7d' :: rest) [.mark '\x7d'] rest :=
      cuts_newline style depth (List.cons_ne_nil _ _) (cuts_mark rfl Lexer.cuts_nil)
    have hentry := cuts_entry hquoted hstyle key (Data.tokens_ne_nil value) hvalue
    have hfirst := cuts_newline style (depth + 1) (List.cons_ne_nil _ _) hentry
    have hall := cuts_mark (c := '\x7b') rfl ((hfirst.append hfields).append hend)
    simpa [printAt, Data.tokens] using hall

/-- The items after the first are cut into their tokens. -/
theorem cuts_printItems {text : List Nat → τ} {quoted : τ → List Char}
    (hquoted : Quotes text quoted) {style : Style} (hstyle : style.IsReadable) (depth : Nat)
    {rest : List Char} (hrest : Text.StopsAt isWordChar rest) : ∀ items : List (Data τ τ),
    (lexer text).Cuts (printItems (.chars quoted) style depth items ++ rest) (Data.tokensItems items) rest
  | [] => Lexer.cuts_nil
  | item :: items => by
    have hitem := cuts_printAt hquoted hstyle depth (stopsAt_printItems quoted depth hstyle items hrest) item
    have hitems := cuts_printItems hquoted hstyle depth hrest items
    have hfirst := cuts_comma depth hstyle (Data.tokens_ne_nil item) hitem
    have hall := hfirst.append hitems
    simpa [printItems, Data.tokensItems] using hall

/-- The fields after the first are cut into their tokens. -/
theorem cuts_printFields {text : List Nat → τ} {quoted : τ → List Char}
    (hquoted : Quotes text quoted) {style : Style} (hstyle : style.IsReadable) (depth : Nat)
    {rest : List Char} (hrest : Text.StopsAt isWordChar rest) : ∀ fields : List (τ × Data τ τ),
    (lexer text).Cuts (printFields (.chars quoted) style depth fields ++ rest) (Data.tokensFields fields) rest
  | [] => Lexer.cuts_nil
  | (key, value) :: fields => by
    have hvalue := cuts_printAt hquoted hstyle depth (stopsAt_printFields quoted depth hstyle fields hrest) value
    have hfields := cuts_printFields hquoted hstyle depth hrest fields
    have hentry := cuts_entry hquoted hstyle key (Data.tokens_ne_nil value) hvalue
    have hfirst := cuts_comma depth hstyle (List.cons_ne_nil _ _) hentry
    have hall := hfirst.append hfields
    simpa [printFields, Data.tokensFields] using hall

end

/-! ## Whole texts -/

/-- The text of data, with any blanks after it, reads as the data. -/
theorem readBy?_print [DecidableEq τ] {text : List Nat → τ} {quoted : τ → List Char}
    (hquoted : Quotes text quoted) {style : Style} (hstyle : style.IsReadable) {v : Data τ τ}
    (hkeys : v.distinctKeys = true) (blanks : List Char)
    (hblanks : ∀ c ∈ blanks, isBlank c = true) :
    readBy? text (String.ofList (printAt (.chars quoted) style 0 v ++ blanks)) = some v := by
  have hstop : Text.StopsAt isWordChar blanks := by
    cases blanks with
    | nil => trivial
    | cons c more =>
      have hc := hblanks c List.mem_cons_self
      simp only [isBlank, Bool.or_eq_true, beq_iff_eq] at hc
      rcases hc with ((rfl | rfl) | rfl) | rfl <;> rfl
  have hread := Assembly.read_of_cuts (cuts_printAt hquoted hstyle 0 hstop v) hkeys
  rw [readBy?, String.toList_ofList, hread]
  simp [List.all_eq_true.2 hblanks]

theorem read?_print {style : Style} (hstyle : style.IsReadable) {v : Json}
    (hkeys : v.distinctKeys = true) (blanks : List Char)
    (hblanks : ∀ c ∈ blanks, isBlank c = true) :
    read? (print style v ++ String.ofList blanks) = some v := by
  rw [print, ← String.ofList_append]
  exact readBy?_print (quotes_quote style.ascii) hstyle hkeys blanks hblanks

/-! ## Halves of pairs -/

/-- The characters that a code point of a text is given by, with an escape for a half of a pair. -/
def escapedHalf : CodePoint → List Char
  | .char c => [c]
  | .half k => unitEscape (0xD800 + k.val)

/-- A text with an escape for each half of a pair. -/
def escapeHalves (text : List CodePoint) : String := String.ofList (text.flatMap escapedHalf)

private theorem flatMap_chars (s : List Char) : (s.map .char).flatMap escapedHalf = s := by
  rw [List.flatMap_map]
  exact List.flatMap_singleton' s

private theorem flatMap_plain (style : Style) (s : List Char) :
    (style.looseScript.plain s).flatMap escapedHalf = s := flatMap_chars s

private theorem flatMap_quoted (style : Style) (s : LooseText) :
    (style.looseScript.quoted s).flatMap escapedHalf = quoteEscaped style.ascii s := by
  have hpoint (p : CodePoint) :
      (escapePoint style.ascii p).flatMap escapedHalf = escapedPoint style.ascii p := by
    cases p with
    | char c => exact flatMap_chars _
    | half k =>
      rw [escapePoint]
      split
      · exact flatMap_chars _
      · exact List.append_nil _
  have hpoints : (s.points.flatMap (escapePoint style.ascii)).flatMap escapedHalf
      = s.points.flatMap (escapedPoint style.ascii) := by
    rw [List.flatMap_assoc, funext hpoint]
  simp only [Style.looseScript, List.cons_append, List.flatMap_cons, List.flatMap_append, hpoints]
  rfl

section

variable (style : Style)

mutual

/-- The escapes may as well be put in while a value is printed. -/
theorem flatMap_printAt (depth : Nat) : ∀ v : LooseJson,
    (printAt style.looseScript style depth v).flatMap escapedHalf
      = printAt (.chars (quoteEscaped style.ascii)) style depth v
  | .null | .bool true | .bool false | .int _ | .float _ | .list [] | .map [] => flatMap_chars _
  | .text s => flatMap_quoted style s
  | .list (item :: rest) => by
    have hitem := flatMap_printAt (depth + 1) item
    have hrest := flatMap_printItems (depth + 1) rest
    simp only [printAt, List.flatMap_append, flatMap_plain, hitem, hrest, Script.plain_chars]
  | .map ((key, value) :: rest) => by
    have hvalue := flatMap_printAt (depth + 1) value
    have hrest := flatMap_printFields (depth + 1) rest
    simp only [printAt, List.flatMap_append, flatMap_plain, flatMap_quoted, hvalue, hrest,
      Script.plain_chars, Script.quoted_chars]

theorem flatMap_printItems (depth : Nat) : ∀ items : List LooseJson,
    (printItems style.looseScript style depth items).flatMap escapedHalf
      = printItems (.chars (quoteEscaped style.ascii)) style depth items
  | [] => rfl
  | item :: rest => by
    have hitem := flatMap_printAt depth item
    have hrest := flatMap_printItems depth rest
    simp only [printItems, List.flatMap_append, flatMap_plain, hitem, hrest, Script.plain_chars]

theorem flatMap_printFields (depth : Nat) : ∀ fields : List (LooseText × LooseJson),
    (printFields style.looseScript style depth fields).flatMap escapedHalf
      = printFields (.chars (quoteEscaped style.ascii)) style depth fields
  | [] => rfl
  | (key, value) :: rest => by
    have hvalue := flatMap_printAt depth value
    have hrest := flatMap_printFields depth rest
    simp only [printFields, List.flatMap_append, flatMap_plain, flatMap_quoted, hvalue, hrest,
      Script.plain_chars, Script.quoted_chars]

end

end

/-- The text of data, with an escape for each half of a pair, is decoded as the data. -/
theorem decode?_printLoose {style : Style} (hstyle : style.IsReadable) {v : LooseJson}
    (hkeys : v.distinctKeys = true) : decode? (escapeHalves (printLoose style v)) = some v := by
  have hread := readBy?_print (quotes_quoteEscaped style.ascii) hstyle hkeys [] nofun
  rwa [List.append_nil, ← flatMap_printAt] at hread

/-! ## What is read -/

section

variable [DecidableEq τ]

private theorem distinctKeys_of_number? {word : List Char} {v : Data τ τ}
    (h : number? word = some v) : v.distinctKeys = true := by
  simp only [number?] at h
  split at h
  · cases h
  · split at h
    · cases h
    · split at h <;> (cases h; rfl)

private theorem distinctKeys_of_word? {word : List Char} {v : Data τ τ}
    (h : word? word = some v) : v.distinctKeys = true := by
  rw [word?] at h
  iterate 6
    split at h
    · cases h
      rfl
  exact distinctKeys_of_number? h

private theorem isPlain_of_token? {text : List Nat → τ} {s r : List Char} {t : Token τ}
    (h : token? text s = some (t, r)) : t.IsPlain := by
  cases s with
  | nil => cases h
  | cons c rest =>
    rw [token?] at h
    split at h
    · cases h
      trivial
    · split at h
      · split at h
        · cases h
          rfl
        · cases h
      · split at h
        · split at h
          · rename_i hword
            cases h
            exact distinctKeys_of_word? hword
          · cases h
        · cases h

/-- Data that is read from a text has no key twice in a map. -/
theorem distinctKeys_of_readBy? {text : List Nat → τ} {source : String} {v : Data τ τ}
    (h : readBy? text source = some v) : v.distinctKeys = true := by
  rw [readBy?] at h
  split at h
  · rename_i value rest hread
    split at h
    · cases h
      exact Assembly.distinctKeys_of_read (fun _ _ _ => isPlain_of_token?) hread
    · cases h
  · cases h

end

end ToolBindings.Json
