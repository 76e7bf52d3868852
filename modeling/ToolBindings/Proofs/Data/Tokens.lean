import ToolBindings.Data.Assembly
import ToolBindings.Proofs.Data.Entries

/-!
# Data as tokens

The tokens that a value is written in, and that they are put together to this value again:

* `Lexer.Cuts` says which tokens a text starts with, and `Lexer.feed` what they lead a reader to, so
  that a run over a text follows from the two (`run_of_feed`);
* `feed_tokens`: the tokens of a value complete this value, within any containers;
* `distinctKeys_of_read`: what is read never has a key twice in a map.
-/

namespace ToolBindings

/-! ## Tokens of a text -/

namespace Lexer

variable {τ : Type}

/-- The text starts with these tokens, and `rest` is what follows them. -/
def Cuts (lexer : Lexer τ) : List Char → List (Token τ) → List Char → Prop
  | s, [], rest => s = rest
  | s, t :: ts, rest => ∃ after, lexer.next? s = some (t, after) ∧ Cuts lexer after ts rest

variable {lexer : Lexer τ} {s r rest : List Char} {t : Token τ} {ts us : List (Token τ)}

@[simp] theorem cuts_nil : lexer.Cuts s [] s := rfl

theorem Cuts.cons (h : lexer.next? s = some (t, r)) (hr : lexer.Cuts r ts rest) :
    lexer.Cuts s (t :: ts) rest := ⟨r, h, hr⟩

theorem cuts_one (h : lexer.next? s = some (t, rest)) : lexer.Cuts s [t] rest := ⟨rest, h, rfl⟩

theorem Cuts.append (h : lexer.Cuts s ts r) (hr : lexer.Cuts r us rest) :
    lexer.Cuts s (ts ++ us) rest := by
  induction ts generalizing s with
  | nil =>
    have hs : s = r := h
    rwa [hs]
  | cons t ts ih =>
    obtain ⟨after, hnext, hafter⟩ := h
    exact ⟨after, hnext, ih hafter⟩

/-- The first token alone decides which tokens a text starts with. -/
theorem Cuts.of_next?_eq {s' : List Char} (h : lexer.Cuts s' ts rest)
    (hnext : lexer.next? s = lexer.next? s') (hts : ts ≠ []) : lexer.Cuts s ts rest := by
  cases ts with
  | nil => exact absurd rfl hts
  | cons t ts =>
    obtain ⟨after, hfirst, hafter⟩ := h
    exact ⟨after, hnext.trans hfirst, hafter⟩

end Lexer

/-! ## Feeding tokens -/

namespace Outcome

variable {σ α τ : Type} (step : σ → Token τ → Outcome σ α)

/-- The outcome after more tokens. None may follow the last one that a reader takes. -/
def feed : Outcome σ α → List (Token τ) → Outcome σ α
  | outcome, [] => outcome
  | .more standing, t :: ts => feed (step standing t) ts
  | .finished _, _ :: _ => .fault .malformed
  | .fault reason, _ :: _ => .fault reason

@[simp] theorem feed_nil (o : Outcome σ α) : feed step o [] = o := by
  cases o <;> rfl

@[simp] theorem feed_more_cons (standing : σ) (t : Token τ) (ts : List (Token τ)) :
    feed step (.more standing) (t :: ts) = feed step (step standing t) ts := rfl

@[simp] theorem feed_fault (reason : ReadFault) (ts : List (Token τ)) :
    feed step (.fault reason) ts = .fault reason := by
  cases ts <;> rfl

theorem feed_append (o : Outcome σ α) (ts us : List (Token τ)) :
    feed step o (ts ++ us) = feed step (feed step o ts) us := by
  induction ts generalizing o with
  | nil => simp
  | cons t ts ih =>
    cases o with
    | more standing => exact ih (step standing t)
    | finished value => cases us <;> rfl
    | fault reason => cases us <;> rfl

/-- What a run comes to that ends in an outcome, before the text `rest`. -/
def result (rest : List Char) : Outcome σ α → Except ReadFault (α × List Char)
  | .more _ => .error .malformed
  | .finished value => .ok (value, rest)
  | .fault reason => .error reason

/-- The reader stands where `P` says, or has read what `Q` says. -/
def Holds (P : σ → Prop) (Q : α → Prop) : Outcome σ α → Prop
  | .more standing => P standing
  | .finished value => Q value
  | .fault _ => True

end Outcome

namespace Lexer

variable {σ α τ : Type} {step : σ → Token τ → Outcome σ α} {standing : σ}
variable {lexer : Lexer τ} {s r rest : List Char} {t : Token τ} {ts : List (Token τ)}

theorem run_eq (h : lexer.next? s = some (t, r)) :
    lexer.run step standing s
      = match step standing t with
        | .more next => lexer.run step next r
        | .finished value => .ok (value, r)
        | .fault reason => .error reason := by
  rw [run]
  split
  · rename_i hnone
    rw [hnone] at h
    cases h
  · rename_i token after hsome
    rw [hsome, Option.some.injEq, Prod.mk.injEq] at h
    obtain ⟨rfl, rfl⟩ := h
    rfl

/-- A run over a text whose tokens bring the reading to its end ends in the same way, with what
follows them. Only of a malformed text nothing is said, since a run does not look at what follows the
last token it takes. -/
theorem run_of_feed {o : Outcome σ α} (hcuts : lexer.Cuts s ts rest)
    (hfeed : Outcome.feed step (.more standing) ts = o) (ho : o.result rest ≠ .error .malformed) :
    lexer.run step standing s = o.result rest := by
  subst hfeed
  induction ts generalizing s standing with
  | nil => exact absurd rfl ho
  | cons t ts ih =>
    obtain ⟨after, hnext, hafter⟩ := hcuts
    rw [Outcome.feed_more_cons] at ho ⊢
    rw [run_eq hnext]
    cases hstep : step standing t with
    | more next =>
      rw [hstep] at ho
      exact ih hafter ho
    | finished value =>
      rw [hstep] at ho
      cases ts with
      | nil =>
        obtain rfl : after = rest := hafter
        rfl
      | cons u us => exact absurd rfl ho
    | fault reason =>
      rw [Outcome.feed_fault]
      rfl

/-- What a reader reads has every property that its steps keep. -/
theorem run_holds {P : σ → Prop} {Q : α → Prop} {T : Token τ → Prop}
    (htoken : ∀ s t r, lexer.next? s = some (t, r) → T t)
    (hstep : ∀ a t, P a → T t → (step a t).Holds P Q) {value : α} {s : List Char}
    (hstanding : P standing) (hrun : lexer.run step standing s = .ok (value, rest)) : Q value := by
  induction hn : s.length using Nat.strongRecOn generalizing s standing with
  | ind n ih =>
    cases hnext : lexer.next? s with
    | none =>
      rw [run] at hrun
      split at hrun
      · cases hrun
      · rename_i hsome
        rw [hnext] at hsome
        cases hsome
    | some p =>
      obtain ⟨t, r⟩ := p
      have hkeeps := hstep standing t hstanding (htoken s t r hnext)
      rw [run_eq hnext] at hrun
      cases hout : step standing t with
      | more next =>
        rw [hout] at hrun hkeeps
        exact ih r.length (hn ▸ lexer.shorter s t r hnext) hkeeps hrun rfl
      | finished v =>
        rw [hout] at hrun hkeeps
        cases hrun
        exact hkeeps
      | fault reason =>
        rw [hout] at hrun
        cases hrun

end Lexer

/-! ## Distinct keys -/

namespace Data

section

variable {κ τ : Type} [DecidableEq κ]

mutual

/-- No map in the data has a key twice. -/
def distinctKeys : Data κ τ → Bool
  | .list items => distinctKeysList items
  | .map fields => decide (Entries.keys fields).Nodup && distinctKeysFields fields
  | _ => true

/-- Element by element. -/
def distinctKeysList : List (Data κ τ) → Bool
  | [] => true
  | item :: rest => distinctKeys item && distinctKeysList rest

/-- Field by field. -/
def distinctKeysFields : List (κ × Data κ τ) → Bool
  | [] => true
  | (_, value) :: rest => distinctKeys value && distinctKeysFields rest

end

theorem distinctKeys_map {fields : List (κ × Data κ τ)} :
    distinctKeys (.map fields) = true
      ↔ (Entries.keys fields).Nodup ∧ distinctKeysFields fields = true := by
  rw [distinctKeys, Bool.and_eq_true, decide_eq_true_iff]

theorem distinctKeysList_iff {items : List (Data κ τ)} :
    distinctKeysList items = true ↔ ∀ v ∈ items, distinctKeys v = true := by
  induction items with
  | nil => simp [distinctKeysList]
  | cons v items ih => simp [distinctKeysList, ih]

theorem distinctKeysFields_iff {fields : List (κ × Data κ τ)} :
    distinctKeysFields fields = true ↔ ∀ f ∈ fields, distinctKeys f.2 = true := by
  induction fields with
  | nil => simp [distinctKeysFields]
  | cons f fields ih => simp [distinctKeysFields, ih]

theorem distinctKeys_of_get? {fields : Entries κ (Data κ τ)} {key : κ} {value : Data κ τ}
    (h : distinctKeysFields fields = true) (hvalue : Entries.get? key fields = some value) :
    value.distinctKeys = true :=
  distinctKeysFields_iff.1 h (key, value) (Entries.mem_of_get? hvalue)

/-- A field of data without repeated keys has none either. -/
theorem distinctKeys_of_field {fields : Entries κ (Data κ τ)} {key : κ} {value : Data κ τ}
    (h : (map fields).distinctKeys = true) (hvalue : Entries.get? key fields = some value) :
    value.distinctKeys = true :=
  distinctKeys_of_get? (distinctKeys_map.1 h).2 hvalue

/-- Nor has a map under a key. -/
theorem distinctKeys_of_mapField {fields schema : Entries κ (Data κ τ)} {key : κ}
    (h : (map fields).distinctKeys = true) (hschema : (Entries.get? key fields).bind map? = some schema) :
    (map schema).distinctKeys = true := by
  obtain ⟨value, hvalue, hmap⟩ := Option.bind_eq_some_iff.1 hschema
  have hdistinct := distinctKeys_of_field h hvalue
  cases value with
  | map fields =>
    cases hmap
    exact hdistinct
  | _ => cases hmap

end

/-! ## The tokens of a value -/

section

variable {τ : Type}

mutual

/-- The tokens of a value. -/
def tokens : Data τ τ → List (Token τ)
  | .null => [.scalar .null]
  | .bool b => [.scalar (.bool b)]
  | .int i => [.scalar (.int i)]
  | .float x => [.scalar (.float x)]
  | .text s => [.scalar (.text s)]
  | .list [] => [.mark '[', .mark ']']
  | .list (item :: rest) => .mark '[' :: tokens item ++ tokensItems rest ++ [.mark ']']
  | .map [] => [.mark '\x7b', .mark '\x7d']
  | .map ((key, value) :: rest) =>
    .mark '\x7b' :: .scalar (.text key) :: .mark ':' :: tokens value ++ tokensFields rest ++
      [.mark '\x7d']

/-- The tokens of the items after the first. -/
def tokensItems : List (Data τ τ) → List (Token τ)
  | [] => []
  | item :: rest => .mark ',' :: tokens item ++ tokensItems rest

/-- The tokens of the fields after the first. -/
def tokensFields : List (τ × Data τ τ) → List (Token τ)
  | [] => []
  | (key, value) :: rest =>
    .mark ',' :: .scalar (.text key) :: .mark ':' :: tokens value ++ tokensFields rest

end

/-- A value starts with a token that ends no list. -/
theorem tokens_eq_cons (v : Data τ τ) : ∃ t ts, v.tokens = t :: ts ∧ t ≠ .mark ']' := by
  match v with
  | .null | .bool _ | .int _ | .float _ | .text _ => exact ⟨_, _, rfl, nofun⟩
  | .list [] | .list (_ :: _) => exact ⟨_, _, rfl, by simp⟩
  | .map [] | .map ((_, _) :: _) => exact ⟨_, _, rfl, by simp⟩

theorem tokens_ne_nil (v : Data τ τ) : v.tokens ≠ [] := by
  obtain ⟨t, ts, hv, -⟩ := tokens_eq_cons v
  rw [hv]
  exact List.cons_ne_nil t ts

end

end Data

/-- A token whose value, if it has one, is no container with a key twice. -/
def Token.IsPlain {τ : Type} [DecidableEq τ] : Token τ → Prop
  | .scalar value => value.distinctKeys = true
  | _ => True

namespace Assembly

open Data Outcome

variable {τ : Type} [DecidableEq τ]

/-- The first item of a list stands where a value may start. -/
private theorem feed_openedList (around : List (Frame τ)) (v : Data τ τ) (us : List (Token τ)) :
    feed step (.more (.openedList around)) (v.tokens ++ us)
      = feed step (.more (.beforeValue (.list [] :: around))) (v.tokens ++ us) := by
  obtain ⟨t, ts, hv, ht⟩ := tokens_eq_cons v
  have hstep : step (.openedList around) t = start (.list [] :: around) t := by
    rw [step]
    exact ht
  rw [hv, List.cons_append, feed_more_cons, feed_more_cons, hstep]
  rfl

mutual

/-- Where a value may start, its tokens complete it. -/
theorem feed_tokens (around : List (Frame τ)) : ∀ v : Data τ τ, v.distinctKeys = true →
    feed step (.more (.beforeValue around)) v.tokens = complete v around
  | .null, _ => feed_nil step _
  | .bool _, _ => feed_nil step _
  | .int _, _ => feed_nil step _
  | .float _, _ => feed_nil step _
  | .text _, _ => feed_nil step _
  | .list [], _ => feed_nil step _
  | .map [], _ => feed_nil step _
  | .list (item :: rest), h => by
    rw [distinctKeys, distinctKeysList, Bool.and_eq_true] at h
    have hitem := feed_tokens (.list [] :: around) item h.1
    have hrest := feed_tokensItems [item] around rest h.2
    rw [tokens]
    simp only [List.cons_append, List.append_assoc, feed_more_cons]
    show feed step (.more (.openedList around)) _ = _
    rw [feed_openedList, feed_append, hitem]
    exact hrest
  | .map ((key, value) :: rest), h => by
    rw [distinctKeys_map, distinctKeysFields, Bool.and_eq_true] at h
    have hvalue := feed_tokens (.entry [] key :: around) value h.2.1
    have hrest := feed_tokensFields [(key, value)] around rest h.2.2
    rw [List.reverse_singleton, List.singleton_append, Entries.ofList_of_nodup h.1] at hrest
    rw [tokens]
    simp only [List.cons_append, List.append_assoc, feed_more_cons]
    show feed step (.more (.beforeValue (.entry [] key :: around))) _ = _
    rw [feed_append, hvalue]
    exact hrest

/-- After an item, the tokens of the others and the end of the list complete the list. -/
theorem feed_tokensItems (done : List (Data τ τ)) (around : List (Frame τ)) : ∀ items : List (Data τ τ),
    distinctKeysList items = true →
    feed step (.more (.afterElement (.list done) around)) (tokensItems items ++ [.mark ']'])
      = complete (.list (done.reverse ++ items)) around
  | [], _ => by
    rw [List.append_nil]
    exact feed_nil step _
  | item :: rest, h => by
    rw [distinctKeysList, Bool.and_eq_true] at h
    have hitem := feed_tokens (.list done :: around) item h.1
    have hrest := feed_tokensItems (item :: done) around rest h.2
    rw [tokensItems]
    simp only [List.cons_append, List.append_assoc, feed_more_cons]
    show feed step (.more (.beforeValue (.list done :: around))) _ = _
    rw [feed_append, hitem]
    rw [List.reverse_cons, List.append_assoc] at hrest
    exact hrest

/-- After a field, the tokens of the others and the end of the map complete the map. -/
theorem feed_tokensFields (done : List (τ × Data τ τ)) (around : List (Frame τ)) :
    ∀ fields : List (τ × Data τ τ), distinctKeysFields fields = true →
    feed step (.more (.afterElement (.map done) around)) (tokensFields fields ++ [.mark '\x7d'])
      = complete (.map (Entries.ofList (done.reverse ++ fields))) around
  | [], _ => by
    rw [List.append_nil]
    exact feed_nil step _
  | (key, value) :: rest, h => by
    rw [distinctKeysFields, Bool.and_eq_true] at h
    have hvalue := feed_tokens (.entry done key :: around) value h.1
    have hrest := feed_tokensFields ((key, value) :: done) around rest h.2
    rw [tokensFields]
    simp only [List.cons_append, List.append_assoc, feed_more_cons]
    show feed step (.more (.beforeValue (.entry done key :: around))) _ = _
    rw [feed_append, hvalue]
    rw [List.reverse_cons, List.append_assoc] at hrest
    exact hrest

end

/-- A text that is cut into the tokens of a value reads as this value. -/
theorem read_of_cuts {lexer : Lexer τ} {s rest : List Char} {v : Data τ τ}
    (hcuts : lexer.Cuts s v.tokens rest) (hv : v.distinctKeys = true) :
    read lexer s = .ok (v, rest) :=
  Lexer.run_of_feed hcuts (feed_tokens [] v hv) nofun

/-! ## What is read -/

/-- What is put together so far has distinct keys. -/
private def frameDistinct : Frame τ → Bool
  | .list done => distinctKeysList done
  | .entry done _ => distinctKeysFields done

private def distinct : Assembly τ → Bool
  | .beforeValue around | .openedList around | .openedMap around => around.all frameDistinct
  | .beforeKey done around | .beforeColon done _ around =>
    distinctKeysFields done && around.all frameDistinct
  | .afterElement (.list done) around => distinctKeysList done && around.all frameDistinct
  | .afterElement (.map done) around => distinctKeysFields done && around.all frameDistinct

private theorem distinctKeysFields_ofList {fields : List (τ × Data τ τ)}
    (h : distinctKeysFields fields = true) :
    distinctKeysFields (Entries.ofList fields) = true := by
  rw [distinctKeysFields_iff] at h ⊢
  intro f hf
  exact h f (Entries.mem_of_mem_ofList hf)

private theorem complete_distinct {v : Data τ τ} {around : List (Frame τ)}
    (hv : v.distinctKeys = true) (haround : around.all frameDistinct = true) :
    (complete v around).Holds (distinct · = true) (distinctKeys · = true) := by
  match around with
  | [] => exact hv
  | .list done :: around =>
    simp_all [complete, Holds, distinct, frameDistinct, distinctKeysList]
  | .entry done key :: around =>
    simp_all [complete, Holds, distinct, frameDistinct, distinctKeysFields]

private theorem start_distinct {around : List (Frame τ)} {t : Token τ}
    (haround : around.all frameDistinct = true) (ht : t.IsPlain) :
    (start around t).Holds (distinct · = true) (distinctKeys · = true) := by
  unfold start
  split
  · exact complete_distinct ht haround
  · exact haround
  · exact haround
  · trivial
  · trivial

private theorem step_distinct (a : Assembly τ) (t : Token τ) (ha : distinct a = true)
    (ht : t.IsPlain) : (step a t).Holds (distinct · = true) (distinctKeys · = true) := by
  unfold step
  split
  · exact start_distinct ha ht
  · exact complete_distinct rfl ha
  · refine start_distinct ?_ ht
    rw [List.all_cons, Bool.and_eq_true]
    exact ⟨rfl, ha⟩
  · exact complete_distinct rfl ha
  · exact ha
  · exact ha
  · exact ha
  · exact ha
  · simp only [distinct, Bool.and_eq_true] at ha
    refine complete_distinct ?_ ha.2
    rw [distinctKeys, distinctKeysList_iff] at *
    simpa using ha.1
  · exact ha
  · simp only [distinct, Bool.and_eq_true] at ha
    refine complete_distinct ?_ ha.2
    rw [distinctKeys_map]
    refine ⟨Entries.nodup_keys_ofList _, distinctKeysFields_ofList ?_⟩
    simpa [distinctKeysFields_iff] using ha.1
  · trivial

/-- What is read has no key twice in a map, whatever the text. -/
theorem distinctKeys_of_read {lexer : Lexer τ}
    (hplain : ∀ s t r, lexer.next? s = some (t, r) → t.IsPlain) {s rest : List Char} {v : Data τ τ}
    (h : read lexer s = .ok (v, rest)) : v.distinctKeys = true :=
  Lexer.run_holds hplain step_distinct rfl h

end Assembly
end ToolBindings
