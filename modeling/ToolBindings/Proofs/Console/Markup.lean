import Mathlib.Data.List.Induction
import ToolBindings.Proofs.Console.Layout

/-!
# What markup takes away

A tag in a text does not come through when the text is rendered: its bracket goes, or a backslash
before it (`count_pieces_lt_of_tag`, `count_pieces_lt_of_escaped`). A closing tag that closes nothing
ends the rendering (`render_unmatched`), and a text that is escaped is rendered to its end
(`render_escape`).
-/

namespace ToolBindings.Console.Markup

variable {s t tag after : List Char} {n : Nat}

/-! ## Tags at the front -/

/-- A character that does not end the inside of a tag. -/
def isInside (c : Char) : Bool := c ≠ ']' && c ≠ '['

theorem isInside_of_startsTag {c : Char} (h : startsTag c = true) : isInside c = true := by
  have hclose : c ≠ ']' := by
    rintro rfl
    exact absurd h (by decide)
  have hopen : c ≠ '[' := by
    rintro rfl
    exact absurd h (by decide)
  simp [isInside, hclose, hopen]

theorem tag?_eq_some : tag? s = some (tag, after) ↔
    s = tag ++ ']' :: after ∧ ∃ c inside, tag = c :: inside ∧ startsTag c = true ∧
      ∀ d ∈ inside, isInside d = true := by
  constructor
  · intro h
    unfold tag? at h
    split at h
    · cases h
    · rename_i c rest
      split at h
      · rename_i hstarts
        split at h
        · rename_i after' hdrop
          simp only [Option.some.injEq, Prod.mk.injEq] at h
          obtain ⟨rfl, rfl⟩ := h
          refine ⟨?_, c, _, rfl, hstarts, fun d hd => ?_⟩
          · rw [List.cons_append, ← hdrop, List.takeWhile_append_dropWhile]
          · exact List.all_eq_true.1 List.all_takeWhile d hd
        · cases h
      · cases h
  · rintro ⟨rfl, c, inside, rfl, hstarts, hinside⟩
    have hbracket : isInside ']' = false := by decide
    have htake : (inside ++ ']' :: after).takeWhile isInside = inside := by
      rw [List.takeWhile_append_of_pos hinside, List.takeWhile_cons, if_neg (by simp [hbracket]),
        List.append_nil]
    have hdrop : (inside ++ ']' :: after).dropWhile isInside = ']' :: after := by
      rw [List.dropWhile_append_of_pos hinside, List.dropWhile_cons, if_neg (by simp [hbracket])]
    unfold isInside at htake hdrop
    rw [List.cons_append, tag?, if_pos hstarts, htake, hdrop]
    rfl

/-- A tag is there whatever follows it. -/
theorem tag?_append (h : tag? s = some (tag, after)) (t : List Char) :
    tag? (s ++ t) = some (tag, after ++ t) := by
  obtain ⟨rfl, htag⟩ := tag?_eq_some.1 h
  exact tag?_eq_some.2 ⟨by simp, htag⟩

/-- A bracket opens in a text before one closes. -/
def Opens (t : List Char) : Prop := ∀ inside rest, t = inside ++ ']' :: rest → '[' ∈ inside

theorem opens_tag (n : Nat) (u : List Char) : Opens (List.replicate n '\\' ++ '[' :: u) := by
  intro inside rest heq
  induction n generalizing inside with
  | zero =>
    cases inside with
    | nil => exact absurd (List.cons.inj heq).1 (by decide)
    | cons c inside => exact List.mem_cons.2 (Or.inl (List.cons.inj heq).1)
  | succ n ih =>
    rw [List.replicate_succ, List.cons_append] at heq
    cases inside with
    | nil => exact absurd (List.cons.inj heq).1 (by decide)
    | cons c inside => exact List.mem_cons_of_mem c (ih inside (List.cons.inj heq).2)

/-- An open bracket behind a text does not make a tag of it. -/
theorem tag?_append_of_opens (h : tag? s = none) (ht : Opens t) : tag? (s ++ t) = none := by
  rw [Option.eq_none_iff_forall_ne_some] at h ⊢
  rintro ⟨tag, after⟩ hsome
  obtain ⟨heq, c, inside, rfl, hstarts, hinside⟩ := tag?_eq_some.1 hsome
  have hnot : '[' ∉ c :: inside := by
    rw [List.mem_cons]
    rintro (rfl | hmem)
    · exact absurd hstarts (by decide)
    · exact absurd (hinside _ hmem) (by decide)
  rcases List.append_eq_append_iff.1 heq with ⟨more, htag, hrest⟩ | ⟨more, rfl, hrest⟩
  · exact hnot (htag ▸ List.mem_append_right s (ht more after hrest))
  · cases more with
    | nil => exact absurd (ht [] after hrest.symm) (List.not_mem_nil)
    | cons d more =>
      obtain ⟨rfl, -⟩ := List.cons.inj hrest
      exact h (c :: inside, more) (tag?_eq_some.2 ⟨rfl, c, inside, rfl, hstarts, hinside⟩)

theorem eq_of_front? (h : front? s = some (n, tag, after)) :
    s = List.replicate n '\\' ++ '[' :: tag ++ ']' :: after := by
  fun_induction front? s generalizing n tag after with
  | case1 rest ih =>
    obtain ⟨⟨n', tag', after'⟩, hfront, heq⟩ := Option.map_eq_some_iff.1 h
    simp only [Prod.mk.injEq] at heq
    obtain ⟨rfl, rfl, rfl⟩ := heq
    rw [ih hfront, List.replicate_succ]
    rfl
  | case2 rest =>
    obtain ⟨⟨tag', after'⟩, htag, heq⟩ := Option.map_eq_some_iff.1 h
    simp only [Prod.mk.injEq] at heq
    obtain ⟨rfl, rfl, rfl⟩ := heq
    rw [(tag?_eq_some.1 htag).1]
    rfl
  | case3 => cases h

/-- The tag at the front of a text is one whatever follows it. -/
theorem tag?_of_front? (h : front? s = some (n, tag, after)) (back : List Char) :
    tag? (tag ++ ']' :: back) = some (tag, back) := by
  fun_induction front? s generalizing n tag after with
  | case1 rest ih =>
    obtain ⟨⟨n', tag', after'⟩, hfront, heq⟩ := Option.map_eq_some_iff.1 h
    simp only [Prod.mk.injEq] at heq
    obtain ⟨rfl, rfl, rfl⟩ := heq
    exact ih hfront
  | case2 rest =>
    obtain ⟨⟨tag', after'⟩, htag, heq⟩ := Option.map_eq_some_iff.1 h
    simp only [Prod.mk.injEq] at heq
    obtain ⟨rfl, rfl, rfl⟩ := heq
    exact tag?_eq_some.2 ⟨rfl, (tag?_eq_some.1 htag).2⟩
  | case3 => cases h

theorem front?_append (h : front? s = some (n, tag, after)) (t : List Char) :
    front? (s ++ t) = some (n, tag, after ++ t) := by
  fun_induction front? s generalizing n tag after with
  | case1 rest ih =>
    obtain ⟨⟨n', tag', after'⟩, hfront, heq⟩ := Option.map_eq_some_iff.1 h
    simp only [Prod.mk.injEq] at heq
    obtain ⟨rfl, rfl, rfl⟩ := heq
    rw [List.cons_append, front?, ih hfront]
    rfl
  | case2 rest =>
    obtain ⟨⟨tag', after'⟩, htag, heq⟩ := Option.map_eq_some_iff.1 h
    simp only [Prod.mk.injEq] at heq
    obtain ⟨rfl, rfl, rfl⟩ := heq
    rw [List.cons_append, front?, tag?_append htag]
    rfl
  | case3 => cases h

/-- An open bracket makes no tag of what is before it, unless that is backslashes only. -/
theorem front?_append_of_opens (h : front? s = none) (hs : ∃ c ∈ s, c ≠ '\\') (ht : Opens t) :
    front? (s ++ t) = none := by
  fun_induction front? s with
  | case1 rest ih =>
    rw [Option.map_eq_none_iff] at h
    obtain ⟨c, hc, hne⟩ := hs
    have hrest : c ∈ rest := (List.mem_cons.1 hc).resolve_left hne
    rw [List.cons_append, front?, ih h ⟨c, hrest, hne⟩, Option.map_none]
  | case2 rest =>
    rw [Option.map_eq_none_iff] at h
    rw [List.cons_append, front?, tag?_append_of_opens h ht, Option.map_none]
  | case3 s hbackslash hbracket =>
    cases s with
    | nil => simp at hs
    | cons c rest =>
      rw [List.cons_append, front?]
      · intro _ heq
        exact hbackslash rest (by rw [(List.cons.inj heq).1])
      · intro _ heq
        exact hbracket rest (by rw [(List.cons.inj heq).1])

/-- A tag after backslashes is at the front. -/
theorem front?_tag (htag : tag? (tag ++ ']' :: after) = some (tag, after)) (n : Nat) :
    front? (List.replicate n '\\' ++ '[' :: tag ++ ']' :: after) = some (n, tag, after) := by
  induction n with
  | zero =>
    show (tag? (tag ++ ']' :: after)).map _ = _
    rw [htag]
    rfl
  | succ n ih =>
    rw [List.replicate_succ, List.cons_append, List.cons_append, front?, ih]
    rfl

/-- A text that does not end in a backslash is not made of backslashes. -/
theorem exists_ne_backslash {c : Char} (h : (c :: s).getLast? ≠ some '\\') :
    ∃ d ∈ c :: s, d ≠ '\\' := by
  refine ⟨(c :: s).getLast (List.cons_ne_nil c s), List.getLast_mem _, fun heq => h ?_⟩
  rw [List.getLast?_eq_some_getLast (List.cons_ne_nil c s), heq]

/-- The back of a text does not end in a backslash if the text does not. -/
theorem getLast?_ne_of_suffix (h : s.getLast? ≠ some '\\') (ht : t <:+ s) :
    t.getLast? ≠ some '\\' := by
  obtain ⟨front, rfl⟩ := ht
  intro hlast
  rw [List.getLast?_append, hlast] at h
  exact h rfl

/-! ## Pieces -/

theorem pieces_nil : pieces [] = [] := by
  rw [pieces]
  rfl

theorem pieces_of_some (h : front? s = some (n, tag, after)) :
    pieces s = .text [] :: tagPieces n tag ++ pieces after := by
  rw [pieces]
  split
  · rename_i hfront
    rw [h, Option.some.injEq, Prod.mk.injEq, Prod.mk.injEq] at hfront
    obtain ⟨rfl, rfl, rfl⟩ := hfront
    rfl
  · rename_i hfront
    rw [h] at hfront
    cases hfront

theorem pieces_of_none {c : Char} (h : front? (c :: s) = none) :
    pieces (c :: s) = consChar c (pieces s) := by
  rw [pieces]
  split
  · rename_i hfront
    rw [h] at hfront
    cases hfront
  · rfl

/-- The characters of a piece that are no markup. -/
def Piece.chars : Piece → List Char
  | .text s => s
  | .tag _ => []

/-- The characters of pieces that are no markup. -/
def chars (l : List Piece) : List Char := l.flatMap Piece.chars

@[simp] theorem chars_append (l m : List Piece) : chars (l ++ m) = chars l ++ chars m := by
  unfold chars
  rw [List.flatMap_append]

@[simp] theorem chars_cons_text (s : List Char) (l : List Piece) :
    chars (.text s :: l) = s ++ chars l := rfl

@[simp] theorem chars_cons_tag (s : List Char) (l : List Piece) :
    chars (.tag s :: l) = chars l := rfl

@[simp] theorem chars_consChar (c : Char) (l : List Piece) :
    chars (consChar c l) = c :: chars l := by
  unfold consChar
  split <;> rfl

/-- Half of the backslashes before a tag are left, and the tag if one is left over. -/
theorem chars_tagPieces (n : Nat) (tag : List Char) : chars (tagPieces n tag)
    = List.replicate (n / 2) '\\' ++ if n % 2 = 0 then [] else '[' :: tag ++ [']'] := by
  have hshown : chars (if n < 2 then [] else [.text (List.replicate (n / 2) '\\')])
      = List.replicate (n / 2) '\\' := by
    split
    · have hzero : n / 2 = 0 := by omega
      rw [hzero]
      rfl
    · exact List.append_nil _
  have htag : chars (if n % 2 = 0 then [.tag tag] else [.text ('[' :: tag ++ [']'])])
      = if n % 2 = 0 then [] else '[' :: tag ++ [']'] := by
    split
    · rfl
    · exact List.append_nil _
  unfold tagPieces
  rw [chars_append, hshown, htag]

/-- A tag behind a text that does not end in a backslash is taken apart from it. -/
theorem chars_pieces_append (htag : tag? (tag ++ ']' :: after) = some (tag, after))
    (front : List Char) (hfront : front.getLast? ≠ some '\\') (n : Nat) :
    chars (pieces (front ++ (List.replicate n '\\' ++ '[' :: tag ++ ']' :: after)))
      = chars (pieces front) ++ (chars (tagPieces n tag) ++ chars (pieces after)) := by
  induction front using pieces.induct with
  | case1 front m inside back hpart ih =>
    have hback : back <:+ front := by
      rw [eq_of_front? hpart]
      exact (List.suffix_cons ']' back).trans (List.suffix_append _ _)
    rw [pieces_of_some (front?_append hpart _), pieces_of_some hpart, List.cons_append,
      chars_cons_text, chars_append, ih (getLast?_ne_of_suffix hfront hback), List.cons_append,
      chars_cons_text, chars_append]
    simp only [List.append_assoc]
  | case2 =>
    rw [List.nil_append, pieces_of_some (front?_tag htag n), pieces_nil, List.cons_append,
      chars_cons_text, chars_append]
    rfl
  | case3 c rest hpart ih =>
    have hopens : Opens (List.replicate n '\\' ++ '[' :: tag ++ ']' :: after) := by
      rw [List.append_assoc]
      exact opens_tag n _
    have hnone := front?_append_of_opens hpart (exists_ne_backslash hfront) hopens
    rw [List.cons_append] at hnone ⊢
    rw [pieces_of_none hnone, pieces_of_none hpart, chars_consChar, chars_consChar,
      ih (getLast?_ne_of_suffix hfront (List.suffix_cons c rest))]
    rfl

/-! ## What is left of brackets and backslashes -/

variable {a : Char} {styles : List String} {out : List Char}

theorem count_showPieces_le (ha : isMark a = true) {l : List Piece}
    (h : showPieces styles l = .ok out) : out.count a ≤ (chars l).count a := by
  fun_induction showPieces styles l generalizing out with
  | case1 =>
    cases h
    exact Nat.le_refl _
  | case2 styles s rest ih =>
    cases hrest : showPieces styles rest with
    | error crash =>
      rw [hrest] at h
      cases h
    | ok shownRest =>
      rw [hrest] at h
      cases h
      have hle := ih hrest
      have hshown := count_shown_le ha s
      rw [chars_cons_text, List.count_append, List.count_append]
      omega
  | case3 styles inside rest name hname styles' hclose ih => exact ih h
  | case4 => cases h
  | case5 styles inside rest name ih => exact ih h

theorem count_tagPieces_le (n : Nat) (tag : List Char) : (chars (tagPieces n tag)).count a
    ≤ (List.replicate n '\\').count a + ('[' :: tag ++ [']']).count a := by
  have hhalf : (List.replicate (n / 2) '\\').count a ≤ (List.replicate n '\\').count a :=
    (List.replicate_sublist_replicate '\\' |>.2 (by omega)).count_le a
  rw [chars_tagPieces, List.count_append]
  split
  · rw [List.count_nil]
    omega
  · omega

theorem count_pieces_le (s : List Char) : (chars (pieces s)).count a ≤ s.count a := by
  induction s using pieces.induct with
  | case1 s n tag after hfront ih =>
    have htag := count_tagPieces_le (a := a) n tag
    have hcount : s.count a
        = (List.replicate n '\\').count a + ('[' :: tag ++ [']']).count a + after.count a := by
      rw [eq_of_front? hfront, ← List.count_append, ← List.count_append]
      simp
    rw [pieces_of_some hfront, List.cons_append, chars_cons_text, List.nil_append, chars_append,
      List.count_append]
    omega
  | case2 =>
    rw [pieces_nil]
    exact Nat.le_refl _
  | case3 c rest hfront ih =>
    rw [pieces_of_none hfront, chars_consChar, List.count_cons, List.count_cons]
    omega

/-- A tag without a backslash before it loses its bracket. -/
theorem count_pieces_append (htag : tag? (tag ++ ']' :: after) = some (tag, after))
    {front : List Char} (hfront : front.getLast? ≠ some '\\') :
    (chars (pieces (front ++ '[' :: tag ++ ']' :: after))).count '['
      ≤ front.count '[' + (chars (pieces after)).count '[' := by
  have happend := chars_pieces_append htag front hfront 0
  have hle := count_pieces_le (a := '[') front
  rw [List.replicate_zero, List.nil_append, ← List.append_assoc] at happend
  rw [happend, chars_tagPieces, List.count_append]
  simpa using hle

/-- A text and the backslashes at its end. -/
theorem exists_backslashes_at_end (s : List Char) :
    ∃ whole n, s = whole ++ List.replicate n '\\' ∧ whole.getLast? ≠ some '\\' := by
  induction s using List.reverseRecOn with
  | nil => exact ⟨[], 0, rfl, nofun⟩
  | append_singleton front c ih =>
    by_cases hc : c = '\\'
    · obtain ⟨whole, n, rfl, hwhole⟩ := ih
      refine ⟨whole, n + 1, ?_, hwhole⟩
      rw [hc, List.replicate_succ', List.append_assoc]
    · refine ⟨front ++ [c], 0, (List.append_nil _).symm, ?_⟩
      rw [List.getLast?_concat]
      exact fun heq => hc (Option.some.inj heq)

/-- A tag with a backslash before it loses one. -/
theorem count_pieces_lt_of_escaped (htag : tag? (tag ++ ']' :: after) = some (tag, after))
    (front : List Char) :
    (chars (pieces (front ++ '\\' :: '[' :: tag ++ ']' :: after))).count '\\'
      < (front ++ '\\' :: '[' :: tag ++ ']' :: after).count '\\' := by
  -- all backslashes before the tag count
  obtain ⟨whole, n, rfl, hwhole⟩ := exists_backslashes_at_end front
  have hsplit : whole ++ List.replicate n '\\' ++ '\\' :: '[' :: tag ++ ']' :: after
      = whole ++ (List.replicate (n + 1) '\\' ++ '[' :: tag ++ ']' :: after) := by
    rw [List.replicate_succ']
    simp
  have hfront := count_pieces_le (a := '\\') whole
  have hafter := count_pieces_le (a := '\\') after
  have htagPieces : (chars (tagPieces (n + 1) tag)).count '\\' < n + 1 + tag.count '\\' := by
    rw [chars_tagPieces, List.count_append, List.count_replicate_self]
    split
    · rw [List.count_nil]
      omega
    · have hcount : ('[' :: tag ++ [']']).count '\\' = tag.count '\\' := by simp
      omega
  rw [hsplit, chars_pieces_append htag whole hwhole, List.count_append, List.count_append]
  have hwhole' : (whole ++ (List.replicate (n + 1) '\\' ++ '[' :: tag ++ ']' :: after)).count '\\'
      = whole.count '\\' + (n + 1 + tag.count '\\' + after.count '\\') := by
    simp [List.count_append, Nat.add_assoc]
  omega

/-! ## How a rendering ends -/

/-- Whether pieces can be shown. -/
def ending (styles : List String) (l : List Piece) : Except Crash Unit :=
  (showPieces styles l).map fun _ => ()

@[simp] theorem ending_text (s : List Char) (l : List Piece) :
    ending styles (.text s :: l) = ending styles l := by
  unfold ending
  rw [showPieces]
  cases showPieces styles l <;> rfl

@[simp] theorem ending_consChar (c : Char) (l : List Piece) :
    ending styles (consChar c l) = ending styles l := by
  unfold consChar
  split
  · rw [ending_text, ending_text]
  · rw [ending_text]

/-- Text without a bracket does not matter to the ending. -/
theorem ending_pieces_append {front : List Char} (hbracket : '[' ∉ front)
    (hfront : front.getLast? ≠ some '\\') (ht : Opens t) :
    ending styles (pieces (front ++ t)) = ending styles (pieces t) := by
  induction front with
  | nil => rfl
  | cons c rest ih =>
    have hnone : front? (c :: rest) = none := by
      rw [Option.eq_none_iff_forall_ne_some]
      rintro ⟨n, tag, after⟩ hsome
      refine hbracket ?_
      rw [eq_of_front? hsome]
      simp
    have hnone' := front?_append_of_opens hnone (exists_ne_backslash hfront) ht
    rw [List.cons_append] at hnone' ⊢
    rw [pieces_of_none hnone', ending_consChar]
    exact ih (fun hmem => hbracket (List.mem_cons_of_mem c hmem))
      (getLast?_ne_of_suffix hfront (List.suffix_cons c rest))

/-! ## Text in red -/

/-- The tag that ends what is written in red. -/
def redEnd : List Char := "[/red]".toList

theorem tag?_redEnd : tag? ("/red".toList ++ ']' :: []) = some ("/red".toList, []) := by decide

theorem coloured_red (s : List Char) : coloured "red" s = "[red]".toList ++ (s ++ redEnd) := by
  unfold coloured redEnd
  simp

theorem pieces_coloured (s : List Char) :
    pieces (coloured "red" s) = .text [] :: .tag "red".toList :: pieces (s ++ redEnd) := by
  have hstart : front? "[red]".toList = some (0, "red".toList, []) := by decide
  rw [coloured_red, pieces_of_some (front?_append hstart (s ++ redEnd))]
  rfl

theorem ending_coloured (s : List Char) : ending [] (pieces (coloured "red" s))
    = ending [Style.normal "red".toList] (pieces (s ++ redEnd)) := by
  have hred : tagName "red".toList = "red".toList := by decide
  rw [pieces_coloured, ending_text, ending, showPieces, hred]
  rfl

theorem ending_render : ending [] (pieces s) = (render s).map fun _ => () := rfl

/-- A closing tag that closes nothing, and no tag before it, is an error. -/
theorem render_unmatched {front name back : List Char} (hbracket : '[' ∉ front)
    (hfront : front.getLast? ≠ some '\\') (hname : ∀ c ∈ name, isInside c = true)
    (hwhole : tagName ('/' :: name) = '/' :: name)
    (hclose : closeStyle? name [Style.normal "red".toList] = none) :
    render (coloured "red" (front ++ '[' :: '/' :: name ++ ']' :: back)) = .error .markup := by
  have htag : tag? ('/' :: name ++ ']' :: (back ++ redEnd)) = some ('/' :: name, back ++ redEnd) :=
    tag?_eq_some.2 ⟨rfl, '/', name, rfl, by decide, hname⟩
  have hsplit : front ++ '[' :: '/' :: name ++ ']' :: back ++ redEnd
      = front ++ (List.replicate 0 '\\' ++ '[' :: ('/' :: name) ++ ']' :: (back ++ redEnd)) := by
    simp
  have hopens : Opens (List.replicate 0 '\\' ++ '[' :: ('/' :: name) ++ ']' :: (back ++ redEnd)) := by
    rw [List.append_assoc]
    exact opens_tag 0 _
  have hend : ending [] (pieces (coloured "red" (front ++ '[' :: '/' :: name ++ ']' :: back)))
      = .error .markup := by
    rw [ending_coloured, hsplit, ending_pieces_append hbracket hfront hopens,
      pieces_of_some (front?_tag htag 0), List.cons_append, ending_text]
    show ending _ (.tag ('/' :: name) :: _) = _
    rw [ending, showPieces, hwhole]
    simp only
    rw [hclose]
    rfl
  rw [ending_render] at hend
  cases hrender : render (coloured "red" (front ++ '[' :: '/' :: name ++ ']' :: back)) with
  | ok out =>
    rw [hrender] at hend
    cases hend
  | error crash =>
    rw [hrender] at hend
    cases hend
    rfl

/-! ## Escaped text -/

theorem escapeTags_of_some (h : front? s = some (n, tag, after)) : escapeTags s
    = List.replicate (2 * n + 1) '\\' ++ '[' :: tag ++ ']' :: escapeTags after := by
  rw [escapeTags]
  split
  · rename_i hfront
    rw [h, Option.some.injEq, Prod.mk.injEq, Prod.mk.injEq] at hfront
    obtain ⟨rfl, rfl, rfl⟩ := hfront
    rfl
  · rename_i hfront
    rw [h] at hfront
    cases hfront

theorem escapeTags_of_none {c : Char} (h : front? (c :: s) = none) :
    escapeTags (c :: s) = c :: escapeTags s := by
  rw [escapeTags]
  split
  · rename_i hfront
    rw [h] at hfront
    cases hfront
  · rfl

theorem escapeTags_nil : escapeTags [] = [] := by
  rw [escapeTags]
  rfl

theorem getLast?_escapeTags (s : List Char) : (escapeTags s).getLast? = s.getLast? := by
  induction s using escapeTags.induct with
  | case1 s n tag after hfront ih =>
    rw [escapeTags_of_some hfront, eq_of_front? hfront, List.getLast?_append, List.getLast?_cons, ih]
    rw [List.getLast?_append (l := _ ++ _), List.getLast?_cons]
    rfl
  | case2 => rw [escapeTags_nil]
  | case3 c rest hfront ih => rw [escapeTags_of_none hfront, List.getLast?_cons, List.getLast?_cons, ih]

/-- A text that does not end in a backslash gets none at its end. -/
theorem escape_eq (h : s.getLast? ≠ some '\\') : escape s = escapeTags s := by
  rw [← getLast?_escapeTags, ← List.head?_reverse] at h
  rw [escape, closeBackslash]
  split
  · rename_i hlast
    exact absurd (by rw [hlast]; rfl) h
  · rename_i hlast
    exact absurd (by rw [hlast]; rfl) h
  · rfl

/-- What is before the first bracket that closes is left alone, if none opens in it. -/
theorem eq_append_of_escapeTags {inside : List Char} (hinside : ∀ d ∈ inside, isInside d = true)
    (h : escapeTags s = inside ++ ']' :: after) : ∃ back, s = inside ++ ']' :: back := by
  induction s using escapeTags.induct generalizing inside with
  | case1 s n tag back hfront ih =>
    rw [escapeTags_of_some hfront, List.append_assoc] at h
    exact absurd (hinside '[' (opens_tag _ _ inside after h)) (by decide)
  | case2 =>
    rw [escapeTags_nil] at h
    simp at h
  | case3 c rest hfront ih =>
    rw [escapeTags_of_none hfront] at h
    cases inside with
    | nil => exact ⟨rest, by rw [(List.cons.inj h).1]; rfl⟩
    | cons d inside =>
      obtain ⟨rfl, hrest⟩ := List.cons.inj h
      obtain ⟨back, rfl⟩ := ih (fun d hd => hinside d (List.mem_cons_of_mem _ hd)) hrest
      exact ⟨back, rfl⟩

/-- Escaping makes no tags. -/
theorem front?_escapeTags (h : front? s = none) : front? (escapeTags s) = none := by
  induction s using escapeTags.induct with
  | case1 s n tag after hfront ih =>
    rw [h] at hfront
    cases hfront
  | case2 =>
    rw [escapeTags_nil]
    rfl
  | case3 c rest hfront ih =>
    rw [escapeTags_of_none hfront]
    by_cases hbackslash : c = '\\'
    · subst hbackslash
      rw [front?, Option.map_eq_none_iff] at h ⊢
      exact ih h
    · by_cases hbracket : c = '['
      · subst hbracket
        rw [front?, Option.map_eq_none_iff, Option.eq_none_iff_forall_ne_some] at h ⊢
        rintro ⟨tag, after⟩ hsome
        obtain ⟨heq, d, inside, rfl, hstarts, hinside⟩ := tag?_eq_some.1 hsome
        have hall : ∀ e ∈ d :: inside, isInside e = true := by
          intro e he
          rcases List.mem_cons.1 he with rfl | he
          · exact isInside_of_startsTag hstarts
          · exact hinside e he
        obtain ⟨back, rfl⟩ := eq_append_of_escapeTags hall heq
        exact h (d :: inside, back) (tag?_eq_some.2 ⟨rfl, d, inside, rfl, hstarts, hinside⟩)
      · rw [front?]
        · intro _ heq
          exact hbackslash (List.cons.inj heq).1
        · intro _ heq
          exact hbracket (List.cons.inj heq).1

theorem closeStyle?_self (name : List Char) : closeStyle? name [Style.normal name] = some [] := by
  unfold closeStyle?
  split
  · rfl
  · simp

theorem ending_redEnd : ending [Style.normal "red".toList] (pieces redEnd) = .ok () := by
  have hname : tagName "/red".toList = '/' :: "red".toList := by decide
  have hfront : front? redEnd = some (0, "/red".toList, []) := by decide
  have hlast : showPieces [Style.normal "red".toList] [.tag "/red".toList] = .ok [] := by
    rw [showPieces, hname]
    simp only
    rw [closeStyle?_self]
    rfl
  rw [pieces_of_some hfront, pieces_nil, List.append_nil, ending_text]
  show ending _ [.tag "/red".toList] = _
  rw [ending, hlast]
  rfl

/-- A tag is text after an odd number of backslashes. -/
theorem ending_tagPieces (hn : n % 2 = 1) (l : List Piece) :
    ending styles (tagPieces n tag ++ l) = ending styles l := by
  unfold tagPieces
  rw [if_neg (by omega : ¬n % 2 = 0)]
  split
  · show ending styles (.text _ :: l) = _
    rw [ending_text]
  · show ending styles (.text _ :: .text _ :: l) = _
    rw [ending_text, ending_text]

theorem ending_escapeTags (h : s.getLast? ≠ some '\\') :
    ending [Style.normal "red".toList] (pieces (escapeTags s ++ redEnd)) = .ok () := by
  induction s using escapeTags.induct with
  | case1 s n tag after hfront ih =>
    have hafter : after <:+ s := by
      rw [eq_of_front? hfront]
      exact (List.suffix_cons ']' after).trans (List.suffix_append _ _)
    have htag := tag?_of_front? hfront (escapeTags after ++ redEnd)
    have hodd : (2 * n + 1) % 2 = 1 := by omega
    rw [escapeTags_of_some hfront, List.append_assoc, List.cons_append,
      pieces_of_some (front?_tag htag (2 * n + 1)), List.cons_append, ending_text,
      ending_tagPieces hodd]
    exact ih (getLast?_ne_of_suffix h hafter)
  | case2 =>
    rw [escapeTags_nil, List.nil_append]
    exact ending_redEnd
  | case3 c rest hfront ih =>
    have hopens : Opens redEnd := opens_tag 0 "/red]".toList
    have hnone : front? (c :: escapeTags rest) = none := by
      rw [← escapeTags_of_none hfront]
      exact front?_escapeTags hfront
    have hlast : (c :: escapeTags rest).getLast? ≠ some '\\' := by
      rwa [← escapeTags_of_none hfront, getLast?_escapeTags]
    have hnone' := front?_append_of_opens hnone (exists_ne_backslash hlast) hopens
    rw [escapeTags_of_none hfront]
    rw [List.cons_append] at hnone' ⊢
    rw [pieces_of_none hnone', ending_consChar]
    exact ih (getLast?_ne_of_suffix h (List.suffix_cons c rest))

/-- A text that is escaped is shown to its end. -/
theorem render_escape (h : s.getLast? ≠ some '\\') :
    ∃ out, render (coloured "red" (escape s)) = .ok out := by
  have hend := ending_escapeTags h
  rw [← escape_eq h, ← ending_coloured, ending_render] at hend
  cases hrender : render (coloured "red" (escape s)) with
  | ok out => exact ⟨out, rfl⟩
  | error crash =>
    rw [hrender] at hend
    cases hend

end ToolBindings.Console.Markup
