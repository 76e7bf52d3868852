import ToolBindings.Proofs.Literal.Reading
import ToolBindings.Schema.Reading

/-!
# Schema expressions read back

The text of a property map is cut into the tokens of its expressions as they are written
(`cuts_write`), these tokens lead the reader from the word `schema` to the expression again
(`feed_tokens`), and so the map reads as the properties it was written for, or ends at the first bare
name among the values they set (`readMap_writeMap_eq`).
-/

namespace ToolBindings.Schema

open Literal

namespace Expression

/-! ## What is in an expression -/

mutual

/-- The values that the settings in an expression set. -/
def values : Expression → List Json
  | .mk _ properties calls => valuesOfProperties properties ++ valuesOfCalls calls

def valuesOfProperties : List (String × Expression) → List Json
  | [] => []
  | (_, expression) :: rest => values expression ++ valuesOfProperties rest

def valuesOfCall : Call → List Json
  | .set _ value => [value]
  | .items expression => values expression
  | .nullable | .required | .closed => []

def valuesOfCalls : List Call → List Json
  | [] => []
  | next :: rest => valuesOfCall next ++ valuesOfCalls rest

end

mutual

/-- Only objects are given properties, and nothing that is set has a key twice. -/
def Readable : Expression → Prop
  | .mk kind properties calls =>
    (properties = [] ∨ kind = .object) ∧ ReadableProperties properties ∧ ReadableCalls calls

def ReadableProperties : List (String × Expression) → Prop
  | [] => True
  | (_, expression) :: rest => Readable expression ∧ ReadableProperties rest

def ReadableCall : Call → Prop
  | .set _ value => value.distinctKeys = true
  | .items expression => Readable expression
  | .nullable | .required | .closed => True

def ReadableCalls : List Call → Prop
  | [] => True
  | next :: rest => ReadableCall next ∧ ReadableCalls rest

end

/-! ## Tokens -/

mutual

/-- The tokens of an expression. -/
def tokens : Expression → List Token
  | .mk kind properties calls =>
    .name "schema" :: .mark '.' :: .name kind.word :: .mark '(' :: tokensOfProperties properties ++
      .mark ')' :: tokensOfCalls calls

/-- The tokens of properties in braces. -/
def tokensOfProperties : List (String × Expression) → List Token
  | [] => []
  | (name, expression) :: rest =>
    .mark '\x7b' :: .scalar (.text name) :: .mark ':' :: tokens expression ++ tokensOfMore rest ++
      [.mark '\x7d']

/-- The tokens of the properties after the first. -/
def tokensOfMore : List (String × Expression) → List Token
  | [] => []
  | (name, expression) :: rest =>
    .mark ',' :: .scalar (.text name) :: .mark ':' :: tokens expression ++ tokensOfMore rest

/-- The tokens of a call. -/
def tokensOfCall : Call → List Token
  | .set setting value =>
    .mark '.' :: .name (settingMethod setting) :: .mark '(' :: value.tokens ++ [.mark ')']
  | .nullable => [.mark '.', .name "nullable", .mark '(', .mark ')']
  | .required => [.mark '.', .name "required", .mark '(', .mark ')']
  | .items expression =>
    .mark '.' :: .name "items" :: .mark '(' :: tokens expression ++ [.mark ')']
  | .closed => [.mark '.', .name "without_additional_properties", .mark '(', .mark ')']

/-- The tokens of calls. -/
def tokensOfCalls : List Call → List Token
  | [] => []
  | next :: rest => tokensOfCall next ++ tokensOfCalls rest

end

/-- The tokens of the lines of a property map. -/
def tokensOfLines : List (String × Expression) → List Token
  | [] => []
  | (name, expression) :: rest =>
    .scalar (.text name) :: .mark ':' :: tokens expression ++ .mark ',' :: tokensOfLines rest

/-! ## The text is cut into the tokens -/

/-- A word that stands for no value. -/
def isName (name : String) : Bool :=
  match name.toList with
  | [] => false
  | c :: rest =>
    isNameChar c && !c.isDigit && rest.all isNameChar && !(["None", "True", "False"].contains name)

theorem isName_word (kind : Kind) : isName kind.word = true := by
  cases kind <;> decide

theorem isName_settingMethod (setting : Setting) : isName (settingMethod setting) = true := by
  cases setting <;> decide

section

variable {s rest : List Char} {ts : List Token}

/-- A name in front of a mark. -/
theorem cuts_name {name : String} (hname : isName name = true) {c : Char}
    (hc : isNameChar c = false) (h : lexer.Cuts (c :: s) ts rest) :
    lexer.Cuts (name.toList ++ c :: s) (.name name :: ts) rest := by
  unfold isName at hname
  split at hname
  · cases hname
  · rename_i d run hrun
    simp only [Bool.and_eq_true, Bool.not_eq_true', List.contains_eq_mem, decide_eq_false_iff_not,
      List.all_eq_true, List.mem_cons, List.not_mem_nil, or_false, not_or] at hname
    obtain ⟨⟨⟨hd, hdigit⟩, hall⟩, hnone, htrue, hfalse⟩ := hname
    have hnext := next?_name hd hdigit hall ((Text.stopsAt_cons isNameChar c s).2 hc)
    have hword : word (String.ofList (d :: run)) = .name name := by
      rw [← hrun, String.ofList_toList, word, if_neg hnone, if_neg htrue, if_neg hfalse]
    rw [hword] at hnext
    rw [hrun]
    exact h.cons hnext

/-- Blanks in front of tokens. -/
theorem cuts_blanks {pad : List Char} (hpad : ∀ c ∈ pad, isBlank c = true) (hts : ts ≠ [])
    (h : lexer.Cuts s ts rest) : lexer.Cuts (pad ++ s) ts rest := by
  induction pad with
  | nil => exact h
  | cons c pad ih =>
    exact cuts_blank (hpad c List.mem_cons_self) hts
      (ih fun d hd => hpad d (List.mem_cons_of_mem c hd))

theorem opened_append (method : String) (s : List Char) :
    opened method ++ s = '.' :: (method.toList ++ '(' :: s) := by
  simp [opened]

/-- A method up to its argument. -/
theorem cuts_opened (method : String) (hmethod : isName method = true)
    (h : lexer.Cuts s ts rest) :
    lexer.Cuts (opened method ++ s) (.mark '.' :: .name method :: .mark '(' :: ts) rest := by
  rw [opened_append]
  exact cuts_mark rfl (cuts_name hmethod rfl (cuts_mark rfl h))

/-- A builder's name up to the argument of its method. -/
theorem cuts_builder (kind : Kind) (h : lexer.Cuts s ts rest) :
    lexer.Cuts (builder ++ (opened kind.word ++ s))
      (.name "schema" :: .mark '.' :: .name kind.word :: .mark '(' :: ts) rest := by
  have hkind := cuts_opened kind.word (isName_word kind) h
  rw [opened_append] at hkind ⊢
  have hname : isName "schema" = true := by decide
  exact cuts_name hname rfl hkind

/-- The end of the argument. -/
theorem cuts_close (rest : List Char) : lexer.Cuts (')' :: rest) [.mark ')'] rest :=
  cuts_mark rfl Lexer.cuts_nil

end

theorem tokens_ne_nil (e : Expression) : e.tokens ≠ [] := by
  cases e
  simp [tokens]

theorem tokens_asWritten_ne_nil (e : Expression) : e.tokens.map asWritten ≠ [] :=
  fun h => e.tokens_ne_nil (List.map_eq_nil_iff.1 h)

mutual

/-- The text of an expression is cut into its tokens as they are written. -/
theorem cuts_write (rest : List Char) : ∀ e : Expression,
    lexer.Cuts (e.write ++ rest) (e.tokens.map asWritten) rest
  | .mk kind properties calls => by
    have hcalls := cuts_writeCalls rest calls
    have hproperties := cuts_writeProperties (')' :: (writeCalls calls ++ rest)) properties
    have hbody := hproperties.append (cuts_mark (c := ')') rfl hcalls)
    have hall := cuts_builder kind hbody
    simpa [write, tokens] using hall

/-- The properties in braces are cut into their tokens. -/
theorem cuts_writeProperties (rest : List Char) : ∀ properties : List (String × Expression),
    lexer.Cuts (writeProperties properties ++ rest) ((tokensOfProperties properties).map asWritten)
      rest
  | [] => Lexer.cuts_nil
  | (name, e) :: more => by
    have hmore := cuts_writeMore ('\x7d' :: rest) more
    have he := cuts_write (writeMore more ++ '\x7d' :: rest) e
    have hentry := cuts_entry name e.tokens_asWritten_ne_nil he
    have hend : lexer.Cuts ('\x7d' :: rest) [.mark '\x7d'] rest := cuts_mark rfl Lexer.cuts_nil
    have hall := cuts_mark (c := '\x7b') rfl ((hentry.append hmore).append hend)
    simpa [writeProperties, tokensOfProperties] using hall

/-- The properties after the first are cut into their tokens. -/
theorem cuts_writeMore (rest : List Char) : ∀ properties : List (String × Expression),
    lexer.Cuts (writeMore properties ++ rest) ((tokensOfMore properties).map asWritten) rest
  | [] => Lexer.cuts_nil
  | (name, e) :: more => by
    have hmore := cuts_writeMore rest more
    have hentry := cuts_entry name e.tokens_asWritten_ne_nil (cuts_write (writeMore more ++ rest) e)
    have hblank := cuts_blank (c := ' ') rfl (List.cons_ne_nil _ _) (hentry.append hmore)
    have hall := cuts_mark (c := ',') rfl hblank
    simpa [writeMore, tokensOfMore] using hall

/-- A call is cut into its tokens. -/
theorem cuts_writeCall (rest : List Char) : ∀ call : Call,
    lexer.Cuts (writeCall call ++ rest) ((tokensOfCall call).map asWritten) rest
  | .set setting value => by
    have hvalue := cuts_print (ends_delimiter (d := ')') (by decide) rest) value
    have hall := cuts_opened (settingMethod setting) (isName_settingMethod setting)
      (hvalue.append (cuts_close rest))
    simpa [writeCall, tokensOfCall] using hall
  | .items e => by
    have he := cuts_write (')' :: rest) e
    have hall := cuts_opened "items" (by decide) (he.append (cuts_close rest))
    simpa [writeCall, tokensOfCall] using hall
  | .nullable => cuts_opened "nullable" (by decide) (cuts_close rest)
  | .required => cuts_opened "required" (by decide) (cuts_close rest)
  | .closed => cuts_opened "without_additional_properties" (by decide) (cuts_close rest)

/-- Calls are cut into their tokens. -/
theorem cuts_writeCalls (rest : List Char) : ∀ calls : List Call,
    lexer.Cuts (writeCalls calls ++ rest) ((tokensOfCalls calls).map asWritten) rest
  | [] => Lexer.cuts_nil
  | next :: more => by
    have hnext := cuts_writeCall (writeCalls more ++ rest) next
    have hall := hnext.append (cuts_writeCalls rest more)
    simpa [writeCalls, tokensOfCalls] using hall

end

/-- The lines of a property map are cut into their tokens. -/
theorem cuts_writeLines {pad : List Char} (hpad : ∀ c ∈ pad, isBlank c = true)
    {rest after : List Char} {ts : List Token} (hts : ts ≠ [])
    (hrest : lexer.Cuts rest (ts.map asWritten) after) : ∀ properties : List (String × Expression),
      lexer.Cuts (writeLines pad properties ++ rest)
        ((tokensOfLines properties ++ ts).map asWritten) after
  | [] => hrest
  | (name, e) :: more => by
    have hmore := cuts_writeLines hpad hts hrest more
    have hnewline := cuts_blank (c := '\n') rfl (by simp [hts]) hmore
    have hcomma := cuts_mark (c := ',') rfl hnewline
    have he := cuts_write (',' :: '\n' :: (writeLines pad more ++ rest)) e
    have hentry := cuts_entry name e.tokens_asWritten_ne_nil he
    have hall := cuts_blanks hpad (by simp) (hentry.append hcomma)
    simpa [writeLines, tokensOfLines] using hall

/-! ## Bare names -/

mutual

/-- The bare names among the tokens of an expression are those of the values that are set. -/
theorem findSome?_tokens : ∀ e : Expression,
    e.tokens.findSome? bareName? = e.values.findSome? unbound?
  | .mk kind properties calls => by
    have hproperties := findSome?_tokensOfProperties properties
    have hcalls := findSome?_tokensOfCalls calls
    simp [tokens, values, List.findSome?_append, hproperties, hcalls]

theorem findSome?_tokensOfProperties : ∀ properties : List (String × Expression),
    (tokensOfProperties properties).findSome? bareName?
      = (valuesOfProperties properties).findSome? unbound?
  | [] => rfl
  | (_, e) :: more => by
    have he := findSome?_tokens e
    have hmore := findSome?_tokensOfMore more
    simp [tokensOfProperties, valuesOfProperties, List.findSome?_append, he,
      hmore]

theorem findSome?_tokensOfMore : ∀ properties : List (String × Expression),
    (tokensOfMore properties).findSome? bareName?
      = (valuesOfProperties properties).findSome? unbound?
  | [] => rfl
  | (_, e) :: more => by
    have he := findSome?_tokens e
    have hmore := findSome?_tokensOfMore more
    simp [tokensOfMore, valuesOfProperties, List.findSome?_append, he, hmore]

theorem findSome?_tokensOfCall : ∀ call : Call,
    (tokensOfCall call).findSome? bareName? = (valuesOfCall call).findSome? unbound?
  | .set _ value => by
    have hvalue : [value].findSome? unbound? = value.tokens.findSome? bareName? :=
      List.findSome?_singleton
    simp [tokensOfCall, valuesOfCall, List.findSome?_append, hvalue]
  | .items e => by
    have he := findSome?_tokens e
    simp [tokensOfCall, valuesOfCall, List.findSome?_append, he]
  | .nullable | .required | .closed => rfl

theorem findSome?_tokensOfCalls : ∀ calls : List Call,
    (tokensOfCalls calls).findSome? bareName? = (valuesOfCalls calls).findSome? unbound?
  | [] => rfl
  | next :: more => by
    have hnext := findSome?_tokensOfCall next
    have hmore := findSome?_tokensOfCalls more
    simp [tokensOfCalls, valuesOfCalls, List.findSome?_append, hnext, hmore]

end

theorem findSome?_tokensOfLines (properties : List (String × Expression)) :
    (tokensOfLines properties).findSome? bareName?
      = (valuesOfProperties properties).findSome? unbound? := by
  induction properties with
  | nil => rfl
  | cons property more ih =>
    have he := findSome?_tokens property.2
    simp [tokensOfLines, valuesOfProperties, List.findSome?_append, he, ih]

end Expression

/-! ## The tokens lead back to the expression -/

theorem ofWord?_word (kind : Kind) : Kind.ofWord? kind.word = some kind := by
  cases kind <;> decide

namespace Reading

open Outcome Expression

variable (around : List ReadingFrame)

/-- Numbers stand in arguments only, and there they are part of data. -/
theorem refusesNames_step : RefusesNames step := by
  intro standing x name
  cases standing with
  | argument host setting a around =>
    rcases refusesNames_assembly a x name with ⟨reason, hfault⟩ | hname
    · refine Or.inl ⟨reason, ?_⟩
      rw [step, hfault]
    · refine Or.inr ?_
      rw [step, hname]
  | _ => exact Or.inl ⟨_, rfl⟩

theorem openCall_settingMethod (host : Expression) (setting : Setting) :
    openCall host (settingMethod setting) around
      = .more (.argument host setting (.beforeValue []) around) := by
  cases setting <;> rfl

/-- The argument of a setting is assembled as data is anywhere. -/
theorem feed_argument (host : Expression) (setting : Setting) {a : Assembly} {ts : List Token}
    {v : Json} (h : feed Assembly.step (.more a) ts = .finished v) :
    feed step (.more (.argument host setting a around)) ts
      = .more (.methodClose host (.set setting v) around) := by
  induction ts generalizing a with
  | nil => cases h
  | cons t ts ih =>
    rw [feed_more_cons] at h ⊢
    rw [step]
    cases hnext : a.step t with
    | more next =>
      rw [hnext] at h
      exact ih h
    | finished w =>
      rw [hnext] at h
      cases ts with
      | nil =>
        cases h
        rfl
      | cons u us => cases h
    | fault reason =>
      rw [hnext] at h
      cases ts <;> cases h

mutual

/-- The tokens of an expression make it, whatever is around it. -/
theorem feed_tokens (around : List ReadingFrame) : ∀ e : Expression, e.Readable →
    feed step (.more (.factory around)) e.tokens = .more (.after e around)
  | .mk kind properties calls, h => by
    have hproperties := feed_tokensOfProperties around kind properties h.1 h.2.1
    have hcalls := feed_tokensOfCalls around kind properties [] calls h.2.2
    have hword : step (.typeWord around) (.name kind.word) = .more (.typeOpen kind around) := by
      rw [step, ofWord?_word]
    rw [tokens]
    simp only [List.cons_append, feed_more_cons]
    show feed step (step (.typeWord around) (.name kind.word)) _ = _
    rw [hword, feed_more_cons]
    show feed step (.more (.typeBody kind around)) _ = _
    rw [List.append_cons, feed_append, hproperties]
    exact hcalls
termination_by structural e => e

/-- Properties in braces are given to an object. -/
theorem feed_tokensOfProperties (around : List ReadingFrame) (kind : Kind) :
    ∀ properties : List (String × Expression), (properties = [] ∨ kind = .object) →
      ReadableProperties properties →
        feed step (.more (.typeBody kind around)) (tokensOfProperties properties ++ [.mark ')'])
          = .more (.after (.mk kind properties []) around)
  | [], _, _ => rfl
  | (key, e) :: others, hkind, h => by
    obtain rfl : kind = .object := hkind.resolve_left (List.cons_ne_nil _ _)
    have he := feed_tokens (.property [] key :: .object :: around) e h.1
    have hmore := feed_tokensOfMore (.object :: around) [] key e others h.2
    rw [tokensOfProperties]
    simp only [List.cons_append, List.append_assoc, feed_more_cons]
    show feed step (.more (.factory (.property [] key :: .object :: around))) _ = _
    rw [feed_append, he, List.append_cons, feed_append, hmore]
    simp [closeMap, step]
termination_by structural properties => properties

/-- After a property, the tokens of the others and the end of the map close the map. -/
theorem feed_tokensOfMore (around : List ReadingFrame) (done : List (String × Expression))
    (before : String) (last : Expression) : ∀ properties : List (String × Expression),
      ReadableProperties properties →
        feed step (.more (.after last (.property done before :: around)))
          (tokensOfMore properties ++ [.mark '\x7d'])
            = closeMap (properties.reverse ++ (before, last) :: done) around
  | [], _ => feed_nil step _
  | (key, e) :: others, h => by
    have he := feed_tokens (.property ((before, last) :: done) key :: around) e h.1
    have hmore := feed_tokensOfMore around ((before, last) :: done) key e others h.2
    rw [tokensOfMore]
    simp only [List.cons_append, List.append_assoc, feed_more_cons]
    show feed step (.more (.factory (.property ((before, last) :: done) key :: around))) _ = _
    rw [feed_append, he, hmore, List.reverse_cons, List.append_assoc]
    rfl
termination_by structural properties => properties

/-- The tokens of a call add it. -/
theorem feed_tokensOfCall (around : List ReadingFrame) (host : Expression) : ∀ call : Call,
    ReadableCall call →
      feed step (.more (.after host around)) (tokensOfCall call)
        = .more (.after (host.call call) around)
  | .set setting value, h => by
    have hvalue := Assembly.feed_tokens [] value h
    rw [tokensOfCall]
    simp only [List.cons_append, feed_more_cons]
    show feed step (openCall host (settingMethod setting) around) _ = _
    rw [openCall_settingMethod, feed_append, feed_argument around host setting hvalue]
    rfl
  | .items e, h => by
    have he := feed_tokens (.items host :: around) e h
    rw [tokensOfCall]
    simp only [List.cons_append, feed_more_cons]
    show feed step (.more (.factory (.items host :: around))) _ = _
    rw [feed_append, he]
    rfl
  | .nullable, _ => rfl
  | .required, _ => rfl
  | .closed, _ => rfl
termination_by structural call => call

/-- The tokens of calls add them in order. -/
theorem feed_tokensOfCalls (around : List ReadingFrame) (kind : Kind)
    (properties : List (String × Expression)) (done : List Call) : ∀ calls : List Call,
      ReadableCalls calls →
        feed step (.more (.after (.mk kind properties done) around)) (tokensOfCalls calls)
          = .more (.after (.mk kind properties (done ++ calls)) around)
  | [], _ => by
    rw [List.append_nil]
    exact feed_nil step _
  | next :: others, h => by
    have hnext := feed_tokensOfCall around (.mk kind properties done) next h.1
    have hmore := feed_tokensOfCalls around kind properties (done ++ [next]) others h.2
    rw [tokensOfCalls, feed_append, hnext]
    rw [List.append_assoc] at hmore
    exact hmore
termination_by structural calls => calls

end

/-- The tokens of the lines of a map add its properties. -/
theorem feed_tokensOfLines (done : List (String × Expression)) (ts : List Token) :
    ∀ properties : List (String × Expression), ReadableProperties properties →
        feed step (.more (.name done around)) (tokensOfLines properties ++ ts)
          = feed step (.more (.name (properties.reverse ++ done) around)) ts
  | [], _ => rfl
  | (key, e) :: others, h => by
    have he := feed_tokens (.property done key :: around) e h.1
    have hothers := feed_tokensOfLines ((key, e) :: done) ts others h.2
    rw [tokensOfLines]
    simp only [List.cons_append, List.append_assoc, feed_more_cons]
    show feed step (.more (.factory (.property done key :: around))) _ = _
    rw [feed_append, he, List.reverse_cons, List.append_assoc]
    exact hothers

end Reading

private theorem isBlank_of_mem_replicate (n : Nat) :
    ∀ c ∈ List.replicate n ' ', isBlank c = true := by
  intro c hc
  rw [List.eq_of_mem_replicate hc]
  rfl

/-- A property map reads as its properties, up to whatever follows it, or ends at the first bare
name among the values they set. -/
theorem readMap_writeMap_eq (indent : Int) {properties : List (String × Expression)}
    (hreadable : Expression.ReadableProperties properties) (rest : List Char) :
    readMap ((Expression.writeMap indent properties).toList ++ rest)
      = unlessUnbound ((Expression.valuesOfProperties properties).findSome? unbound?)
          (properties, rest) := by
  have hend : lexer.Cuts ('\x7d' :: rest) ([Token.mark '\x7d'].map asWritten) rest :=
    cuts_mark rfl Lexer.cuts_nil
  cases hnil : properties.isEmpty with
  | true =>
    obtain rfl := List.isEmpty_iff.1 hnil
    have htext : (Expression.writeMap indent []).toList ++ rest = '\x7b' :: '\x7d' :: rest := by
      simp [Expression.writeMap]
    rw [htext]
    exact Lexer.run_of_feed (cuts_mark rfl hend) rfl nofun
  | false =>
    have hclose := Expression.cuts_blanks (isBlank_of_mem_replicate indent.toNat)
      (List.cons_ne_nil _ _) hend
    have hlines := Expression.cuts_writeLines (isBlank_of_mem_replicate (indent + 4).toNat)
      (List.cons_ne_nil _ _) hclose properties
    have hnewline := cuts_blank (c := '\n') rfl (by simp) hlines
    have hall : lexer.Cuts _ ((Token.mark '\x7b' ::
        (Expression.tokensOfLines properties ++ [Token.mark '\x7d'])).map asWritten) rest :=
      cuts_mark (c := '\x7b') rfl hnewline
    have htext : (Expression.writeMap indent properties).toList ++ rest
        = '\x7b' :: '\n' :: (Expression.writeLines (List.replicate (indent + 4).toNat ' ') properties
          ++ (List.replicate indent.toNat ' ' ++ '\x7d' :: rest)) := by
      simp [Expression.writeMap, hnil]
    -- the brace opens the map, each line adds its property, and the last brace closes the map
    have hfeed : Outcome.feed Reading.step (.more .opening) (Token.mark '\x7b' ::
        (Expression.tokensOfLines properties ++ [Token.mark '\x7d'])) = .finished properties := by
      rw [Outcome.feed_more_cons]
      show Outcome.feed Reading.step (.more (.name [] [])) _ = _
      rw [Reading.feed_tokensOfLines [] [] _ properties hreadable, List.append_nil]
      show Reading.closeMap properties.reverse [] = _
      rw [Reading.closeMap, List.reverse_reverse]
    have hnames : (Token.mark '\x7b' ::
        (Expression.tokensOfLines properties ++ [Token.mark '\x7d'])).findSome? bareName?
          = (Expression.valuesOfProperties properties).findSome? unbound? := by
      simp [List.findSome?_append, Expression.findSome?_tokensOfLines]
    rw [htext, readMap, run_asWritten Reading.refusesNames_step hall hfeed, hnames]

/-- Properties in braces on one line that are without infinities read as the properties. -/
theorem readMap_writeProperties {key : String} {e : Expression}
    {others : List (String × Expression)}
    (hreadable : Expression.ReadableProperties ((key, e) :: others))
    (hfinite : ∀ v ∈ Expression.valuesOfProperties ((key, e) :: others), v.allFinite = true)
    (rest : List Char) :
    readMap (Expression.writeProperties ((key, e) :: others) ++ rest)
      = .ok ((key, e) :: others, rest) := by
  have hfeed : Outcome.feed Reading.step (.more .opening)
      (Expression.tokensOfProperties ((key, e) :: others)) = .finished ((key, e) :: others) := by
    have he := Reading.feed_tokens [.property [] key] e hreadable.1
    have hmore := Reading.feed_tokensOfMore [] [] key e others hreadable.2
    rw [Expression.tokensOfProperties]
    simp only [List.cons_append, List.append_assoc, Outcome.feed_more_cons]
    show Outcome.feed Reading.step (.more (.factory [.property [] key])) _ = _
    rw [Outcome.feed_append, he, hmore]
    simp [Reading.closeMap]
  rw [readMap, run_asWritten Reading.refusesNames_step
    (Expression.cuts_writeProperties rest _) hfeed, Expression.findSome?_tokensOfProperties,
    findSome?_unbound?_eq_none.2 hfinite, unlessUnbound]

end ToolBindings.Schema
