import ToolBindings.Proofs.Console.Marks
import ToolBindings.Proofs.Text.Scan

/-!
# Layout brings no markup

Blanks and line breaks are all that a layout puts into a text, so that no open bracket and no
backslash comes from it (`count_layOut_le`).
-/

namespace ToolBindings.Console

variable {a : Char}

/-! ## Tabs -/

theorem count_blanks (ha : isMark a = true) (n : Nat) : (List.replicate n ' ').count a = 0 := by
  refine List.count_eq_zero.2 fun hmem => ?_
  rw [(List.mem_replicate.1 hmem).2] at ha
  cases ha

theorem count_expandTabsFrom_le (ha : isMark a = true) (column : Nat) (s : List Char) :
    (expandTabsFrom column s).count a ≤ s.count a := by
  fun_induction expandTabsFrom column s with
  | case1 => exact Nat.le_refl _
  | case2 column rest blanks ih =>
    rw [List.count_append, count_blanks ha, List.count_cons]
    omega
  | case3 column c rest hc ih =>
    rw [List.count_cons, List.count_cons]
    omega

/-! ## Line breaks -/

/-- A text is cut into pieces that make it up. -/
theorem flatten_cutFrom (width : Nat) (piece : List Char) (used : Nat) (s : List Char) :
    (cutFrom width piece used s).flatten = piece.reverse ++ s := by
  fun_induction cutFrom width piece used s with
  | case1 piece used => simp
  | case2 piece used c rest columns hfull ih => rw [List.flatten_cons, ih]; simp
  | case3 piece used c rest columns hfits ih => rw [ih]; simp

/-- The words of a text are in it, but for blanks. -/
theorem count_wordsFrom_le (current : List Char) (inBlanks : Bool) (s : List Char) :
    (wordsFrom current inBlanks s).flatten.count a ≤ current.count a + s.count a := by
  fun_induction wordsFrom current inBlanks s with
  | case1 current inBlanks hword => simp
  | case2 current inBlanks hblank => simp
  | case3 current inBlanks c rest hnext ih =>
    rw [List.flatten_cons, List.count_append, List.count_reverse, List.count_cons]
    rw [List.count_cons, List.count_nil] at ih
    omega
  | case4 current inBlanks c rest hsame ih =>
    rw [List.count_cons] at ih ⊢
    omega

theorem count_fill_le (width : Nat) (line : List Char) (words : List (List Char)) :
    (fill width line words).flatten.count a ≤ line.count a + words.flatten.count a := by
  fun_induction fill width line words with
  | case1 line => simp
  | case2 line word rest wordColumns hfits ih =>
    rw [List.count_append] at ih
    rw [List.flatten_cons, List.count_append]
    omega
  | case3 line word rest wordColumns hfull hwide pieces before ih =>
    -- the last piece of the word begins the next line
    have hpieces : pieces.dropLast.flatten.count a + (pieces.getLast?.getD []).count a
        = word.count a := by
      have hcut : pieces.flatten = word := flatten_cutFrom width [] 0 word
      cases hlast : pieces.getLast? with
      | none =>
        rw [List.getLast?_eq_none_iff] at hlast
        rw [hlast] at hcut ⊢
        simp [← hcut]
      | some last =>
        obtain ⟨front, hfront⟩ := List.getLast?_eq_some_iff.1 hlast
        rw [hfront, List.dropLast_concat, Option.getD_some, ← hcut, hfront]
        simp
    have hbefore : before.flatten.count a = line.count a := by
      show (if line.isEmpty then [] else [line]).flatten.count a = line.count a
      cases line <;> simp
    rw [List.flatten_append, List.flatten_append, List.count_append, List.count_append, hbefore,
      List.flatten_cons, List.count_append]
    omega
  | case4 line word rest wordColumns hfull hnarrow ih =>
    rw [List.flatten_cons, List.flatten_cons, List.count_append, List.count_append]
    omega

theorem count_takeColumns_le (ha : isMark a = true) (columns : Nat) (s : List Char) :
    (takeColumns columns s).count a ≤ s.count a := by
  fun_induction takeColumns columns s with
  | case1 => exact Nat.le_refl _
  | case2 columns c rest own hwide =>
    rw [count_blanks ha]
    exact Nat.zero_le _
  | case3 c rest own hwide => exact (List.singleton_sublist.2 List.mem_cons_self).count_le a
  | case4 columns c rest own hwide hmore ih =>
    rw [List.count_cons, List.count_cons]
    omega

theorem count_cropBlanks_le (ha : isMark a = true) (width : Nat) (line : List Char) :
    (cropBlanks width line).count a ≤ line.count a := by
  have htake (n : Nat) : (line.take n).count a ≤ line.count a := (List.take_sublist n line).count_le a
  unfold cropBlanks
  simp only
  split
  · exact Nat.le_trans (count_takeColumns_le ha _ _) (htake _)
  · exact htake _

/-- What holds of every text in a list holds of the texts put together. -/
theorem count_flatMap_le {f : List Char → List (List Char)}
    (hf : ∀ line, (f line).flatten.count a ≤ line.count a) (lines : List (List Char)) :
    (lines.flatMap f).flatten.count a ≤ lines.flatten.count a := by
  induction lines with
  | nil => exact Nat.le_refl _
  | cons line rest ih =>
    have hline := hf line
    rw [List.flatMap_cons, List.flatten_append, List.flatten_cons, List.count_append,
      List.count_append]
    omega

theorem count_wrapLine_le (ha : isMark a = true) (width : Nat) (s : List Char) :
    (wrapLine width s).flatten.count a ≤ s.count a := by
  have hwords := count_wordsFrom_le (a := a) [] false s
  rw [List.count_nil] at hwords
  unfold wrapLine
  split
  · have hline := count_cropBlanks_le ha width s
    simpa using hline
  · have hfill := count_fill_le (a := a) width [] (wordsFrom [] false s)
    rw [List.count_nil] at hfill
    have hcrop (line : List Char) : [cropBlanks width line].flatten.count a ≤ line.count a := by
      simpa using count_cropBlanks_le ha width line
    have hlines := count_flatMap_le hcrop (fill width [] (wordsFrom [] false s))
    rw [← List.map_eq_flatMap] at hlines
    omega

theorem count_intercalate (ha : isMark a = true) (lines : List (List Char)) :
    (['\n'].intercalate lines).count a = lines.flatten.count a := by
  induction lines with
  | nil => rfl
  | cons line rest ih =>
    have hnewline : ['\n'].count a = 0 := count_of_unmarked ha (by decide)
    cases rest with
    | nil => simp [List.intercalate]
    | cons next rest =>
      rw [List.intercalate_cons_cons, List.flatten_cons, List.count_append, List.count_append,
        List.count_append, ih, hnewline, Nat.add_zero]

theorem count_splitOn (ha : isMark a = true) (s : List Char) :
    (Text.splitOn '\n' s).flatten.count a = s.count a := by
  induction s with
  | nil => rfl
  | cons c rest ih =>
    rw [Text.splitOn]
    cases hpieces : Text.splitOn '\n' rest with
    | nil => exact absurd hpieces (Text.splitOn_ne_nil _ rest)
    | cons piece pieces =>
      rw [hpieces] at ih
      by_cases hc : c = '\n'
      · have hnewline : ['\n'].count a = 0 := count_of_unmarked ha (by decide)
        simp only [if_pos hc, List.flatten_cons, List.nil_append] at ih ⊢
        rw [ih, hc, ← List.singleton_append, List.count_append, hnewline, Nat.zero_add]
      · simp only [if_neg hc, List.flatten_cons, List.cons_append, List.count_cons] at ih ⊢
        rw [ih]

theorem count_wrap_le (ha : isMark a = true) (width : Nat) (s : List Char) :
    (wrap width s).count a ≤ s.count a := by
  unfold wrap
  rw [count_intercalate ha, ← count_splitOn ha s]
  exact count_flatMap_le (count_wrapLine_le ha width) _

/-! ## Widths -/

theorem count_layOut_le (ha : isMark a = true) (width : Width) (s : List Char) :
    (width.layOut s).count a ≤ s.count a := by
  have htabs : (expandTabs s).count a ≤ s.count a := count_expandTabsFrom_le ha 0 s
  unfold Width.layOut
  split
  · exact htabs
  · exact Nat.le_trans (count_wrap_le ha _ _) htabs

end ToolBindings.Console
