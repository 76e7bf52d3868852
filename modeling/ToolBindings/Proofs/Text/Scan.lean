import ToolBindings.Text.Scan

/-!
# Cutting runs and pieces

A run of a class followed by a text that starts outside the class is cut exactly at the seam, and
a fixed text is cut off what it was put before. A text that is cut at every separator keeps its other
characters.
-/

namespace ToolBindings.Text

/-- No character of the class stands at the front. -/
def StopsAt (p : Char → Bool) : List Char → Prop
  | [] => True
  | c :: _ => p c = false

@[simp] theorem stopsAt_nil (p : Char → Bool) : StopsAt p [] := trivial

@[simp] theorem stopsAt_cons (p : Char → Bool) (c : Char) (s : List Char) :
    StopsAt p (c :: s) ↔ p c = false := Iff.rfl

theorem StopsAt.takeWhile {p : Char → Bool} {rest : List Char} (h : StopsAt p rest) :
    rest.takeWhile p = [] := by
  cases rest with
  | nil => rfl
  | cons c rest =>
    rw [stopsAt_cons] at h
    rw [List.takeWhile_cons_of_neg (by simp [h])]

theorem StopsAt.dropWhile {p : Char → Bool} {rest : List Char} (h : StopsAt p rest) :
    rest.dropWhile p = rest := by
  cases rest with
  | nil => rfl
  | cons c rest =>
    rw [stopsAt_cons] at h
    rw [List.dropWhile_cons_of_neg (by simp [h])]

/-- The run in front of a text that starts outside its class. -/
theorem takeWhile_run {p : Char → Bool} {run rest : List Char} (hrun : ∀ c ∈ run, p c = true)
    (hrest : StopsAt p rest) : (run ++ rest).takeWhile p = run := by
  rw [List.takeWhile_append_of_pos hrun, hrest.takeWhile, List.append_nil]

/-- What is left behind a run. -/
theorem dropWhile_run {p : Char → Bool} {run rest : List Char} (hrun : ∀ c ∈ run, p c = true)
    (hrest : StopsAt p rest) : (run ++ rest).dropWhile p = rest := by
  rw [List.dropWhile_append_of_pos hrun, hrest.dropWhile]

@[simp] theorem dropText?_append (front s : List Char) : dropText? front (front ++ s) = some s := by
  induction front with
  | nil => rfl
  | cons c front ih => simp [dropText?, ih]

theorem eq_append_of_dropText? {front s rest : List Char} (h : dropText? front s = some rest) :
    s = front ++ rest := by
  induction front generalizing s with
  | nil =>
    cases h
    rfl
  | cons f front ih =>
    cases s with
    | nil => cases h
    | cons c s =>
      rw [dropText?] at h
      split at h
      · rename_i hc
        rw [hc, List.cons_append, ← ih h]
      · cases h

/-! ## Pieces -/

theorem splitOn_ne_nil (sep : Char) (s : List Char) : splitOn sep s ≠ [] := by
  induction s with
  | nil => exact List.cons_ne_nil _ _
  | cons c s ih =>
    rw [splitOn]
    split
    · exact List.cons_ne_nil _ _
    · split <;> exact List.cons_ne_nil _ _

/-- A separator between two texts divides their pieces. -/
theorem splitOn_append (sep : Char) (s t : List Char) :
    splitOn sep (s ++ sep :: t) = splitOn sep s ++ splitOn sep t := by
  induction s with
  | nil =>
    have hempty : splitOn sep [] = [[]] := rfl
    rw [List.nil_append, hempty, splitOn]
    cases hpieces : splitOn sep t with
    | nil => exact absurd hpieces (splitOn_ne_nil sep t)
    | cons piece pieces => exact if_pos rfl
  | cons c s ih =>
    rw [List.cons_append, splitOn, ih, splitOn]
    cases hpieces : splitOn sep s with
    | nil => exact absurd hpieces (splitOn_ne_nil sep s)
    | cons piece pieces =>
      rw [List.cons_append]
      dsimp only
      split <;> rfl

theorem splitOn_of_not_mem {sep : Char} {s : List Char} (h : sep ∉ s) : splitOn sep s = [s] := by
  induction s with
  | nil => rfl
  | cons c s ih =>
    rw [List.mem_cons, not_or] at h
    rw [splitOn, ih h.2]
    exact if_neg (Ne.symm h.1)

/-- Pieces put together again with the separator are the text. -/
theorem intercalate_splitOn (sep : Char) (s : List Char) :
    [sep].intercalate (splitOn sep s) = s := by
  induction s with
  | nil => exact List.intercalate_singleton
  | cons c s ih =>
    rw [splitOn]
    cases hpieces : splitOn sep s with
    | nil => exact absurd hpieces (splitOn_ne_nil sep s)
    | cons piece pieces =>
      rw [hpieces] at ih
      dsimp only
      split
      · rename_i hc
        rw [List.intercalate_cons_cons, ih, hc]
        rfl
      · cases pieces with
        | nil =>
          rw [List.intercalate_singleton] at ih ⊢
          rw [ih]
        | cons next pieces =>
          rw [List.intercalate_cons_cons] at ih ⊢
          rw [List.cons_append, List.cons_append, ih]

/-- Every character but the separator is in a piece. -/
theorem mem_piece_of_ne {sep c : Char} {s : List Char} (hc : c ∈ s) (hne : c ≠ sep) :
    ∃ piece ∈ splitOn sep s, c ∈ piece := by
  obtain ⟨front, back, rfl⟩ := List.append_of_mem hc
  induction front with
  | nil =>
    rw [List.nil_append, splitOn]
    cases hpieces : splitOn sep back with
    | nil => exact absurd hpieces (splitOn_ne_nil sep back)
    | cons piece pieces =>
      refine ⟨c :: piece, ?_, List.mem_cons_self⟩
      dsimp only
      rw [if_neg hne]
      exact List.mem_cons_self
  | cons d front ih =>
    obtain ⟨piece, hpiece, hmem⟩ := ih (List.mem_append_right front List.mem_cons_self)
    rw [List.cons_append, splitOn]
    cases hpieces : splitOn sep (front ++ c :: back) with
    | nil => exact absurd hpieces (splitOn_ne_nil sep _)
    | cons first pieces =>
      rw [hpieces] at hpiece
      dsimp only
      split
      · exact ⟨piece, List.mem_cons_of_mem _ hpiece, hmem⟩
      · rcases List.mem_cons.1 hpiece with rfl | hpiece
        · exact ⟨d :: piece, List.mem_cons_self, List.mem_cons_of_mem d hmem⟩
        · exact ⟨piece, List.mem_cons_of_mem _ hpiece, hmem⟩

end ToolBindings.Text
