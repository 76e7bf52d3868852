import Mathlib.Data.List.Basic
import Mathlib.Logic.ExistsUnique
import ToolBindings.Config.Settings
import ToolBindings.Proofs.Data.Texts
import ToolBindings.Proofs.Text.Scan

/-!
# Placeholders, once and from the left

A configuration text is an alternation of texts without a placeholder and of placeholders, in one
way only (`Alternation.read`). What is made of it is the same alternation with the value of its
variable for each placeholder (`substitute_eq`): texts stay, and values are not read again. So only
the variables that placeholders name count, and layers may be resolved before or after they are
merged (`mergedFields_eq_mergeFields`).
-/

namespace ToolBindings

namespace Placeholder

/-! ## Placeholders as written -/

/-- A variable name: a letter or an underscore, then letters, digits and underscores. -/
def IsName : List Char → Prop
  | [] => False
  | c :: rest => startsName c = true ∧ ∀ d ∈ rest, isNameChar d = true

/-- The placeholder of a name. -/
def written (name : List Char) : List Char := opening ++ name ++ ['\x7d']

/-- A complete placeholder of this name stands somewhere in the text. -/
def Mentions (s name : List Char) : Prop := IsName name ∧ written name <:+: s

/-- What a name stands for. -/
def value (environment : Environment) (name : List Char) : String :=
  (Entries.get? (String.ofList name) environment).getD ""

theorem isNameChar_of_startsName {c : Char} (h : startsName c = true) : isNameChar c = true := by
  unfold startsName at h
  unfold isNameChar Char.isAlphanum
  simp only [Bool.or_eq_true] at h ⊢
  rcases h with h | h
  · exact Or.inl (Or.inl h)
  · exact Or.inr h

theorem isNameChar_of_mem {name : List Char} (h : IsName name) {c : Char} (hc : c ∈ name) :
    isNameChar c = true := by
  cases name with
  | nil => exact h.elim
  | cons first rest =>
    rcases List.mem_cons.1 hc with rfl | hc
    · exact isNameChar_of_startsName h.1
    · exact h.2 c hc

theorem name?_append {name : List Char} (h : IsName name) (after : List Char) :
    name? (name ++ '\x7d' :: after) = some (name, after) := by
  cases name with
  | nil => exact h.elim
  | cons c rest =>
    have hstop : Text.StopsAt isNameChar ('\x7d' :: after) := by
      rw [Text.stopsAt_cons]
      decide
    have hdrop := Text.dropWhile_run h.2 hstop
    have htake := Text.takeWhile_run h.2 hstop
    rw [List.cons_append, name?]
    simp only [h.1, if_true, hdrop, htake]

theorem eq_append_of_name? {s name after : List Char} (h : name? s = some (name, after)) :
    IsName name ∧ s = name ++ '\x7d' :: after := by
  unfold name? at h
  split at h
  · cases h
  · rename_i c rest
    split at h
    · rename_i hc
      split at h
      · rename_i after' hdrop
        cases h
        have hrun : ∀ d ∈ rest.takeWhile isNameChar, isNameChar d = true :=
          List.all_eq_true.1 List.all_takeWhile
        refine ⟨⟨hc, hrun⟩, ?_⟩
        rw [List.cons_append, ← hdrop, List.takeWhile_append_dropWhile]
      · cases h
    · cases h

/-- A placeholder is read at the front exactly if it is written there. -/
theorem read?_eq_some {s name after : List Char} :
    read? s = some (name, after) ↔ IsName name ∧ s = written name ++ after := by
  have hwritten : written name ++ after = opening ++ (name ++ '\x7d' :: after) := by
    simp [written]
  rw [hwritten]
  unfold read?
  constructor
  · intro h
    split at h
    · rename_i rest hrest
      obtain ⟨hname, rfl⟩ := eq_append_of_name? h
      exact ⟨hname, Text.eq_append_of_dropText? hrest⟩
    · cases h
  · rintro ⟨hname, rfl⟩
    rw [Text.dropText?_append]
    exact name?_append hname after

theorem read?_written {name : List Char} (h : IsName name) (after : List Char) :
    read? (written name ++ after) = some (name, after) :=
  read?_eq_some.2 ⟨h, rfl⟩

/-- The dollar sign is the first character of a placeholder and no other. -/
theorem eq_nil_of_written {name front back : List Char} (hname : IsName name)
    (h : written name = front ++ back) (hfront : front ≠ [])
    (hback : ∀ c ∈ back.head?, c = '$') : back = [] := by
  cases back with
  | nil => rfl
  | cons c back =>
    have hc : c = '$' := hback c rfl
    obtain ⟨d, front, rfl⟩ := List.exists_cons_of_ne_nil hfront
    have htail : '$' ∈ opening.tail ++ name ++ ['\x7d'] := by
      have hcons : '$' :: (opening.tail ++ name ++ ['\x7d']) = d :: (front ++ c :: back) := h
      rw [(List.cons.inj hcons).2, hc]
      simp
    -- neither the rest of the opening nor the closing brace is a dollar sign
    have hmem : '$' ∈ name := by simpa [opening] using htail
    exact absurd (isNameChar_of_mem hname hmem) (by decide)

/-! ## Texts that hold placeholders -/

theorem not_mentions_nil (name : List Char) : ¬Mentions [] name := by
  rintro ⟨-, hinfix⟩
  cases List.infix_nil.1 hinfix

/-- A placeholder in a text that starts with one is this one or stands after it. -/
theorem mentions_append {name other after : List Char} (hname : IsName name) :
    Mentions (written name ++ after) other ↔ other = name ∨ Mentions after other := by
  constructor
  · rintro ⟨hother, front, back, heq⟩
    rw [List.append_assoc] at heq
    by_cases hfront : front = []
    · -- both are read at the front
      subst hfront
      have hread := read?_written hname after
      rw [← heq, List.nil_append, read?_written hother] at hread
      cases hread
      exact Or.inl rfl
    · right
      rcases List.append_eq_append_iff.1 heq with ⟨x, hx, hafter⟩ | ⟨x, hx, hafter⟩
      · -- no placeholder starts inside another one
        have hnil : x = [] := by
          apply eq_nil_of_written hname hx hfront
          cases x with
          | nil => simp
          | cons c x =>
            have hc : '$' = c := (List.cons.inj hafter).1
            intro d hd
            cases hd
            exact hc.symm
        subst hnil
        exact ⟨hother, [], back, by rw [List.nil_append]; exact hafter⟩
      · refine ⟨hother, x, back, ?_⟩
        rw [List.append_assoc]
        exact hafter.symm
  · rintro (rfl | ⟨hother, hinfix⟩)
    · exact ⟨hname, (List.prefix_append _ _).isInfix⟩
    · exact ⟨hother, hinfix.trans (List.suffix_append _ _).isInfix⟩

theorem mentions_cons {c : Char} {s name : List Char} (hread : read? (c :: s) = none) :
    Mentions (c :: s) name ↔ Mentions s name := by
  constructor
  · rintro ⟨hname, hinfix⟩
    rcases List.infix_cons_iff.1 hinfix with ⟨back, hback⟩ | hinfix
    · rw [read?_eq_some.2 ⟨hname, hback.symm⟩] at hread
      cases hread
    · exact ⟨hname, hinfix⟩
  · rintro ⟨hname, hinfix⟩
    exact ⟨hname, List.infix_cons hinfix⟩

/-- No placeholder starts in a text without one, whatever follows it, if that starts with a dollar
sign. -/
theorem read?_eq_none {s rest : List Char} (hfree : ∀ name, ¬Mentions s name) (hs : s ≠ [])
    (hrest : ∀ c ∈ rest.head?, c = '$') : read? (s ++ rest) = none := by
  cases hread : read? (s ++ rest) with
  | none => rfl
  | some found =>
    obtain ⟨name, after⟩ := found
    obtain ⟨hname, heq⟩ := read?_eq_some.1 hread
    exfalso
    rcases List.append_eq_append_iff.1 heq with ⟨x, hx, hafter⟩ | ⟨x, hx, -⟩
    · have hnil : x = [] := by
        apply eq_nil_of_written hname hx hs
        intro c hc
        apply hrest
        rw [hafter]
        cases x with
        | nil => cases hc
        | cons d x => exact hc
      rw [hnil, List.append_nil] at hx
      exact hfree name ⟨hname, hx ▸ List.infix_refl _⟩
    · exact hfree name ⟨hname, hx ▸ (List.prefix_append _ _).isInfix⟩

/-! ## Alternations -/

/-- A text, and then placeholders by their names, each with the text that follows it. -/
structure Alternation where
  text : List Char
  more : List (List Char × List Char)
deriving DecidableEq

namespace Alternation

/-- The texts with something in the place of each name. -/
def fill (a : Alternation) (f : List Char → List Char) : List Char :=
  a.text ++ a.more.flatMap fun (name, text) => f name ++ text

/-- The text that is written with placeholders. -/
def written (a : Alternation) : List Char := a.fill Placeholder.written

/-- The texts with the value of each name. -/
def filled (environment : Environment) (a : Alternation) : List Char :=
  a.fill fun name => (value environment name).toList

/-- No text holds a complete placeholder, and the names are names. -/
structure Lawful (a : Alternation) : Prop where
  text : ∀ name, ¬Mentions a.text name
  names : ∀ p ∈ a.more, IsName p.1
  texts : ∀ p ∈ a.more, ∀ name, ¬Mentions p.2 name

/-- The alternation that a text is. -/
def read (s : List Char) : Alternation :=
  match _h : read? s with
  | some (name, after) =>
    let a := read after
    ⟨[], (name, a.text) :: a.more⟩
  | none =>
    match s with
    | [] => ⟨[], []⟩
    | c :: rest =>
      let a := read rest
      ⟨c :: a.text, a.more⟩
termination_by s.length
decreasing_by
  · exact length_read?_lt ‹_›
  · simp

theorem read_written_append {name : List Char} (h : IsName name) (after : List Char) :
    read (Placeholder.written name ++ after)
      = ⟨[], (name, (read after).text) :: (read after).more⟩ := by
  rw [read]
  split
  · rename_i hread
    rw [read?_written h] at hread
    cases hread
    rfl
  · rename_i hread
    rw [read?_written h] at hread
    cases hread

theorem read_nil : read [] = ⟨[], []⟩ := by
  rw [read]
  rfl

theorem read_cons {c : Char} {s : List Char} (h : read? (c :: s) = none) :
    read (c :: s) = ⟨c :: (read s).text, (read s).more⟩ := by
  rw [read]
  split
  · rename_i hread
    rw [h] at hread
    cases hread
  · rfl

/-- Three ways of reading on: a placeholder, the end, a character. -/
theorem read_induction {motive : List Char → Prop}
    (placeholder : ∀ name after, IsName name → motive after →
      motive (Placeholder.written name ++ after))
    (nil : motive []) (cons : ∀ c s, read? (c :: s) = none → motive s → motive (c :: s))
    (s : List Char) : motive s := by
  fun_induction read s with
  | case1 s name after h a ih =>
    obtain ⟨hname, rfl⟩ := read?_eq_some.1 h
    exact placeholder name after hname ih
  | case2 => exact nil
  | case3 c rest h a ih => exact cons c rest h ih

/-! ## Reading what was written -/

theorem fill_cons (f : List Char → List Char) (text name next : List Char)
    (more : List (List Char × List Char)) :
    fill ⟨text, (name, next) :: more⟩ f = text ++ (f name ++ fill ⟨next, more⟩ f) := by
  simp [fill]

/-- A text without placeholders is read as a whole before one, and before the end. -/
theorem read_append {text rest : List Char} (hfree : ∀ name, ¬Mentions text name)
    (hrest : ∀ c ∈ rest.head?, c = '$') (hread : (read rest).text = []) :
    read (text ++ rest) = ⟨text, (read rest).more⟩ := by
  induction text with
  | nil =>
    rw [List.nil_append, ← hread]
  | cons c text ih =>
    have hnone : read? (c :: (text ++ rest)) = none :=
      read?_eq_none hfree (List.cons_ne_nil c text) hrest
    have hfree : ∀ name, ¬Mentions text name := by
      rintro name ⟨hname, hinfix⟩
      exact hfree name ⟨hname, List.infix_cons hinfix⟩
    rw [List.cons_append, read_cons hnone, ih hfree]

theorem read_written {a : Alternation} (h : a.Lawful) : read a.written = a := by
  obtain ⟨text, more⟩ := a
  -- over the placeholders: each one starts with a dollar sign, where the text before it ends
  induction more generalizing text with
  | nil =>
    have hread : (read []).text = [] := by rw [read_nil]
    have hwhole := read_append h.text (by simp : ∀ c ∈ ([] : List Char).head?, c = '$') hread
    rw [read_nil] at hwhole
    exact hwhole
  | cons p more ih =>
    obtain ⟨name, next⟩ := p
    obtain ⟨hname, hnames⟩ := List.forall_mem_cons.1 h.names
    obtain ⟨hnext, htexts⟩ := List.forall_mem_cons.1 h.texts
    have hrest := read_written_append hname (written ⟨next, more⟩)
    rw [ih next ⟨hnext, hnames, htexts⟩] at hrest
    have hopens : ∀ c ∈ (Placeholder.written name ++ written ⟨next, more⟩).head?, c = '$' := by
      intro c hc
      cases hc
      rfl
    have hwhole := read_append h.text hopens (by rw [hrest])
    rw [hrest] at hwhole
    rw [written, fill_cons]
    exact hwhole

theorem written_read (s : List Char) : (read s).written = s := by
  induction s using read_induction with
  | placeholder name after hname ih =>
    rw [read_written_append hname, written, fill_cons]
    exact congrArg (Placeholder.written name ++ ·) ih
  | nil =>
    rw [read_nil]
    rfl
  | cons c s hread ih =>
    rw [read_cons hread]
    exact congrArg (c :: ·) ih

theorem lawful_read (s : List Char) : (read s).Lawful := by
  induction s using read_induction with
  | placeholder name after hname ih =>
    rw [read_written_append hname]
    exact ⟨not_mentions_nil, List.forall_mem_cons.2 ⟨hname, ih.names⟩,
      List.forall_mem_cons.2 ⟨ih.text, ih.texts⟩⟩
  | nil =>
    rw [read_nil]
    exact ⟨not_mentions_nil, List.forall_mem_nil _, List.forall_mem_nil _⟩
  | cons c s hread ih =>
    rw [read_cons hread]
    refine ⟨?_, ih.names, ih.texts⟩
    rintro name ⟨hname, hinfix⟩
    rcases List.infix_cons_iff.1 hinfix with hprefix | hinfix
    · -- what starts the text of the alternation starts the whole text
      have hs : (read s).text <+: s := by
        have hfront : (read s).text <+: (read s).written := List.prefix_append _ _
        rwa [written_read s] at hfront
      obtain ⟨back, hback⟩ := hprefix.trans (List.cons_prefix_cons.2 ⟨rfl, hs⟩)
      rw [read?_eq_some.2 ⟨hname, hback.symm⟩] at hread
      cases hread
    · exact ih.text name ⟨hname, hinfix⟩

/-- The placeholders that stand in a text are those that are read. -/
theorem mentions_iff {s name : List Char} :
    Mentions s name ↔ name ∈ (read s).more.map Prod.fst := by
  induction s using read_induction with
  | placeholder other after hother ih =>
    rw [read_written_append hother, mentions_append hother, ih, List.map_cons, List.mem_cons]
  | nil =>
    rw [read_nil]
    exact iff_of_false (not_mentions_nil name) List.not_mem_nil
  | cons c s hread ih =>
    rw [read_cons hread, mentions_cons hread, ih]

/-! ## Replacing -/

theorem substitute_eq (environment : Environment) (s : List Char) :
    substitute environment s = (read s).filled environment := by
  fun_induction substitute environment s with
  | case1 s name after hread ih =>
    obtain ⟨hname, rfl⟩ := read?_eq_some.1 hread
    rw [read_written_append hname, filled, fill_cons, ih]
    rfl
  | case2 =>
    rw [read_nil]
    rfl
  | case3 c rest hread ih =>
    rw [read_cons hread, ih]
    rfl

theorem filled_congr {environment other : Environment} {a : Alternation}
    (h : ∀ p ∈ a.more, value environment p.1 = value other p.1) :
    a.filled environment = a.filled other := by
  unfold filled fill
  congr 1
  apply List.flatMap_congr
  rintro ⟨name, next⟩ hp
  exact congrArg (·.toList ++ next) (h (name, next) hp)

end Alternation

open Alternation

/-- Only the variables that placeholders of a text name count. -/
theorem resolve_congr {environment other : Environment} {text : String}
    (h : ∀ name, Mentions text.toList name → value environment name = value other name) :
    resolve environment text = resolve other text := by
  unfold resolve
  rw [substitute_eq, substitute_eq]
  congr 1
  apply filled_congr
  intro p hp
  exact h p.1 (mentions_iff.2 (List.mem_map_of_mem hp))

/-- The environments give the same value to each variable that a placeholder in the texts names. -/
def AgreeOn (environment other : Environment) (texts : List String) : Prop :=
  ∀ s ∈ texts, ∀ name, Mentions s.toList name → value environment name = value other name

/-- Only the variables that placeholders of a layer name count. -/
theorem mapTextsFields_resolve_congr {environment other : Environment} {layer : ConfigFields}
    (h : AgreeOn environment other (Data.textsFields layer)) :
    Data.mapTextsFields (resolve environment) layer
      = Data.mapTextsFields (resolve other) layer := by
  apply Data.mapTextsFields_congr
  intro s hs
  exact resolve_congr (h s hs)

/-! ## One pass -/

/-- Every text is an alternation of texts without a placeholder and of placeholders, in one way, and
what is made of it is the same alternation with the values of the variables. So environments that
agree on the variables that placeholders name give the same settings. -/
theorem onePass_resolve :
    (∀ s : List Char, ∃! a : Alternation, a.Lawful ∧ a.written = s) ∧
    (∀ (environment : Environment) (a : Alternation), a.Lawful →
      Data.mapTexts (resolve environment) (.text (String.ofList a.written) : ConfigValue)
        = .text (String.ofList (a.filled environment))) ∧
    ∀ (environment other : Environment) (globalLayer localLayer : ConfigFields),
      AgreeOn environment other (Data.textsFields globalLayer ++ Data.textsFields localLayer) →
      Settings.mergedFields environment globalLayer localLayer
        = Settings.mergedFields other globalLayer localLayer := by
  refine ⟨?_, ?_, ?_⟩
  · intro s
    refine ⟨read s, ⟨lawful_read s, written_read s⟩, ?_⟩
    rintro a ⟨hlawful, rfl⟩
    exact (read_written hlawful).symm
  · intro environment a hlawful
    rw [Data.mapTexts, resolve, String.toList_ofList, substitute_eq, read_written hlawful]
  · intro environment other globalLayer localLayer h
    obtain ⟨hglobal, hlocal⟩ := List.forall_mem_append.1 h
    -- each layer comes to the same already before the layers are merged
    unfold Settings.mergedFields
    rw [Data.mapTextsFields_mergeFields, Data.mapTextsFields_mergeFields,
      mapTextsFields_resolve_congr hglobal, mapTextsFields_resolve_congr hlocal]

/-- The front of a placeholder before a whole one, something that is none since its name starts with a
digit, and two placeholders at the end with nothing between them. -/
def crowded : Alternation :=
  ⟨"$\x7benv:".toList,
    [("A".toList, "\x7d$\x7benv:1\x7d$".toList), ("A".toList, []), ("UNSET".toList, [])]⟩

theorem read_crowded : read crowded.written = crowded := by
  decide +kernel

/-- A global layer with an endpoint from the environment. -/
def endpointLayer : ConfigFields :=
  [(.text "servers", .map [(.text "crm", .map
    [(.text "endpoint", .text "https://$\x7benv:HOST\x7d/mcp")])])]

/-- A local layer with a token from the environment. -/
def tokenLayer : ConfigFields :=
  [(.text "servers", .map [(.text "crm", .map
    [(.text "auth", .map [(.text "token", .text "$\x7benv:TOKEN\x7d")])])])]

theorem agreeOn_layers :
    AgreeOn [("HOST", "crm.example"), ("SPARE", "1")] [("SPARE", "2"), ("HOST", "crm.example")]
      (Data.textsFields endpointLayer ++ Data.textsFields tokenLayer) := by
  have hhost : (read "https://$\x7benv:HOST\x7d/mcp".toList).more.map Prod.fst
      = ["HOST".toList] := by decide +kernel
  have htoken : (read "$\x7benv:TOKEN\x7d".toList).more.map Prod.fst
      = ["TOKEN".toList] := by decide +kernel
  intro s hs name hname
  rw [mentions_iff] at hname
  rcases List.mem_cons.1 hs with rfl | hs
  · rw [hhost, List.mem_singleton] at hname
    rw [hname]
    rfl
  · rw [List.mem_singleton.1 hs, htoken, List.mem_singleton] at hname
    rw [hname]
    rfl

theorem onePass_resolve_crowded :
    crowded.Lawful ∧
      Data.mapTexts (resolve [("A", "$\x7benv:B\x7d"), ("B", "secret")])
          (.text ("$\x7benv:$\x7benv:A\x7d\x7d$\x7benv:1\x7d$$\x7benv:A\x7d" ++
            "$\x7benv:UNSET\x7d") : ConfigValue)
        = .text "$\x7benv:$\x7benv:B\x7d\x7d$\x7benv:1\x7d$$\x7benv:B\x7d" ∧
      AgreeOn [("HOST", "crm.example"), ("SPARE", "1")] [("SPARE", "2"), ("HOST", "crm.example")]
        (Data.textsFields endpointLayer ++ Data.textsFields tokenLayer) ∧
      Settings.mergedFields [("HOST", "crm.example"), ("SPARE", "1")] endpointLayer tokenLayer
        = Settings.mergedFields [("SPARE", "2"), ("HOST", "crm.example")] endpointLayer
            tokenLayer := by
  have hcrowded : crowded.Lawful := read_crowded ▸ lawful_read crowded.written
  refine ⟨hcrowded, ?_, agreeOn_layers, ?_⟩
  · exact onePass_resolve.2.1 [("A", "$\x7benv:B\x7d"), ("B", "secret")] crowded hcrowded
  · exact onePass_resolve.2.2 _ _ endpointLayer tokenLayer agreeOn_layers

end Placeholder

/-! ## Layers -/

namespace Settings

/-- Layers that are merged and then resolved are the same, in the order of their keys too, as layers
that are resolved one by one and then merged. -/
theorem mergedFields_eq_mergeFields (environment : Environment)
    (globalLayer localLayer : ConfigFields) :
    mergedFields environment globalLayer localLayer
      = Data.mergeFields (Data.mapTextsFields (Placeholder.resolve environment) globalLayer)
          (Data.mapTextsFields (Placeholder.resolve environment) localLayer) :=
  Data.mapTextsFields_mergeFields (Placeholder.resolve environment) globalLayer localLayer

end Settings

end ToolBindings
