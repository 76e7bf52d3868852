import ToolBindings.Name.Claimed
import ToolBindings.Proofs.Text.Digits

/-!
# Allocated names are identifiers

Whatever a server and its tools are called, a class name that is given out consists of ASCII letters
and digits, starts with a letter and is none of the words that the source keeps for itself
(`Allocated.isIdentifier`). So is the package of a server (`isIdentifier_package`). The letter is a
capital one (`Allocated.isClassName`, `isClassName_package`).
-/

namespace ToolBindings.Name

/-- A name of ASCII letters and digits that may stand in source text as it is. -/
structure IsIdentifier (name : String) : Prop where
  startsWithLetter : ∃ c rest, name.toList = c :: rest ∧ c.isAlpha = true
  isAlphanum : ∀ c ∈ name.toList, c.isAlphanum = true
  notKeyword : name ∉ keywords

/-- An identifier that begins with a capital letter. -/
structure IsClassName (name : String) : Prop extends IsIdentifier name where
  startsWithCapital : ∃ c rest, name.toList = c :: rest ∧ c.isUpper = true

/-- A class name that is given out to some tool or toolset, with some names claimed before. -/
inductive Allocated (name : String) : Prop where
  | tool (claimed next : Claimed) (server tool : String) (suffixes : Bool)
      (h : claimed.allocateTool server tool suffixes = .ok (name, next))
  | toolset (claimed next : Claimed) (server : String) (suffixes : Bool)
      (h : claimed.allocateToolset server suffixes = .ok (name, next))

/-! ## Letters and digits -/

theorem isUpper_or_isDigit_toUpper {c : Char} (h : c.isAlphanum = true) :
    c.toUpper.isUpper = true ∨ c.toUpper.isDigit = true := by
  by_cases hlower : 97 ≤ c.toNat ∧ c.toNat ≤ 122
  · have hall : ∀ n : Fin 26, (Char.ofNat (97 + n)).toUpper.isUpper = true := by decide
    have hn := hall ⟨c.toNat - 97, by omega⟩
    have hc : 97 + (c.toNat - 97) = c.toNat := by omega
    rw [hc, Char.ofNat_toNat] at hn
    exact Or.inl hn
  · have hnot : ¬('a'.val ≤ c.val ∧ c.val ≤ 'z'.val) := by
      simpa [UInt32.le_iff_toNat_le] using hlower
    have hsame : c.toUpper = c := dif_neg hnot
    have hother : c.isLower = false := by
      rw [Bool.eq_false_iff, ne_eq]
      delta Char.isLower
      simpa using hnot
    have hkinds : ((c.isUpper || c.isLower) || c.isDigit) = true := h
    rw [hother, Bool.or_false, Bool.or_eq_true] at hkinds
    rwa [hsame]

theorem isAlphanum_toUpper {c : Char} (h : c.isAlphanum = true) : c.toUpper.isAlphanum = true := by
  show ((c.toUpper.isUpper || c.toUpper.isLower) || c.toUpper.isDigit) = true
  rcases isUpper_or_isDigit_toUpper h with hupper | hdigit
  · rw [hupper]
    rfl
  · rw [hdigit, Bool.or_true]

theorem isAlphanum_of_mem_mark {value : String} {c : Char} (h : c ∈ (mark value).toList) :
    c.isAlphanum = true := by
  rw [mark, String.toList_ofList] at h
  obtain ⟨b, -, hb⟩ := List.mem_flatMap.1 (List.mem_of_mem_take h)
  exact Text.isAlphanum_of_mem_hexGroup hb

/-- The words of a text consist of letters and digits, and none is empty. -/
theorem isAlphanum_of_mem_words {s : List Char} :
    ∀ w ∈ words s, w ≠ [] ∧ ∀ c ∈ w, c.isAlphanum = true := by
  induction s with
  | nil => exact List.forall_mem_nil _
  | cons c rest ih =>
    rw [words.eq_def]
    simp only
    split
    · rename_i hc
      have hsingle : [c] ≠ [] ∧ ∀ x ∈ [c], x.isAlphanum = true :=
        ⟨List.cons_ne_nil c [], List.forall_mem_singleton.2 hc⟩
      split
      · rename_i d tail word more hwords
        rw [hwords, List.forall_mem_cons] at ih
        split
        · have hlonger : c :: word ≠ [] ∧ ∀ x ∈ c :: word, x.isAlphanum = true :=
            ⟨List.cons_ne_nil c word, List.forall_mem_cons.2 ⟨hc, ih.1.2⟩⟩
          exact List.forall_mem_cons.2 ⟨hlonger, ih.2⟩
        · exact List.forall_mem_cons.2 ⟨hsingle, List.forall_mem_cons.2 ih⟩
      · exact List.forall_mem_cons.2 ⟨hsingle, ih⟩
    · exact ih

theorem isAlphanum_of_mem_capitalized {w : List Char} (hw : ∀ c ∈ w, c.isAlphanum = true) :
    ∀ c ∈ capitalized w, c.isAlphanum = true := by
  cases w with
  | nil => exact hw
  | cons c rest =>
    rw [List.forall_mem_cons] at hw
    exact List.forall_mem_cons.2 ⟨isAlphanum_toUpper hw.1, hw.2⟩

theorem isAlphanum_of_mem_studly (value : String) :
    ∀ c ∈ (studly value).toList, c.isAlphanum = true := by
  unfold studly
  split
  · exact List.all_eq_true.1 rfl
  · rw [String.toList_ofList]
    intro c hc
    obtain ⟨w, hw, hcw⟩ := List.mem_flatMap.1 hc
    exact isAlphanum_of_mem_capitalized (isAlphanum_of_mem_words w hw).2 c hcw

theorem isAlphanum_of_mem_identifier {value : String}
    (h : ∀ c ∈ value.toList, c.isAlphanum = true) :
    ∀ c ∈ (identifier value).toList, c.isAlphanum = true := by
  unfold identifier
  split
  · rw [String.toList_append, List.forall_mem_append]
    exact ⟨List.all_eq_true.1 rfl, h⟩
  · exact h

/-! ## The first letter -/

theorem isAnyDigit_of_isDigit {c : Char} (h : c.isDigit = true) : Text.isAnyDigit c = true := by
  have hrange : 48 ≤ c.toNat ∧ c.toNat ≤ 57 := by
    simpa [Char.isDigit, UInt32.le_iff_toNat_le] using h
  have hzero : Text.decimalDigit? c = some (c.toNat - 48) := by
    rw [Text.decimalDigit?, Text.decimalZeros, List.find?_cons_of_pos]
    · rfl
    · simp
      omega
  rw [Text.isAnyDigit, hzero]
  rfl

/-- A text that is made an identifier starts with a letter. -/
theorem isAlpha_head_identifier {value : String} (hne : value.toList ≠ [])
    (h : ∀ c ∈ value.toList, c.isAlphanum = true) :
    ∃ c rest, (identifier value).toList = c :: rest ∧ c.isAlpha = true := by
  unfold identifier
  split
  · exact ⟨'M', 'c' :: 'p' :: value.toList, by rw [String.toList_append]; rfl, by decide⟩
  · rename_i hplain
    obtain ⟨c, rest, hvalue⟩ := List.exists_cons_of_ne_nil hne
    refine ⟨c, rest, hvalue, ?_⟩
    have hc := h c (hvalue ▸ List.mem_cons_self)
    rw [Char.isAlphanum, Bool.or_eq_true] at hc
    refine hc.resolve_right fun hdigit => hplain ?_
    rw [startsWithDigit, hvalue, Bool.or_eq_true]
    exact Or.inl (isAnyDigit_of_isDigit hdigit)

/-! ## Packages -/

theorem studly_ne_empty (value : String) : (studly value).toList ≠ [] := by
  unfold studly
  split
  · exact List.cons_ne_nil _ _
  · rename_i hrun
    rw [String.toList_ofList]
    exact hrun

/-- A text that is made an identifier is no word of the source. -/
theorem identifier_notKeyword (value : String) : identifier value ∉ keywords := by
  unfold identifier
  split
  · have hall : ∀ k ∈ keywords, k.toList.head? ≠ some 'M' := by decide
    intro hmem
    refine hall _ hmem ?_
    rw [String.toList_append]
    rfl
  · rename_i hplain
    intro hmem
    exact hplain (by simp [hmem])

/-- The package of a server is an identifier. -/
theorem isIdentifier_package (server : String) : IsIdentifier (package server) where
  startsWithLetter := isAlpha_head_identifier (studly_ne_empty server)
    (isAlphanum_of_mem_studly server)
  isAlphanum := isAlphanum_of_mem_identifier (isAlphanum_of_mem_studly server)
  notKeyword := identifier_notKeyword (studly server)

/-! ## Allocated names -/

/-- No word of the source has the letters that every class name ends in. -/
private theorem notKeyword_of_letters {name : String} (ht : 'T' ∈ name.toList)
    (hl : 'l' ∈ name.toList) : name ∉ keywords := by
  have hall : ∀ k ∈ keywords, ¬('T' ∈ k.toList ∧ 'l' ∈ k.toList) := by decide
  intro hname
  exact hall name hname ⟨ht, hl⟩

/-- What is allocated is the base, or the base with letters and digits behind it. -/
theorem allocate_eq {claimed next : Claimed} {base mark name : String} {suffixes : Bool}
    {collision : Collision} (hmark : ∀ c ∈ mark.toList, c.isAlphanum = true)
    (h : claimed.allocate base mark suffixes collision = .ok (name, next)) :
    ∃ more, name.toList = base.toList ++ more ∧ ∀ c ∈ more, c.isAlphanum = true := by
  unfold Claimed.allocate at h
  split at h
  · split at h
    · simp only [Except.ok.injEq, Prod.mk.injEq] at h
      rw [← h.1, Claimed.suffixed]
      split
      · rw [Claimed.counted, String.toList_append, String.toList_append, String.toList_ofList,
          List.append_assoc]
        refine ⟨_, rfl, List.forall_mem_append.2 ⟨hmark, ?_⟩⟩
        intro c hc
        rw [Char.isAlphanum, Text.isDigit_of_mem_decimal hc, Bool.or_true]
      · rw [String.toList_append]
        exact ⟨_, rfl, hmark⟩
    · cases h
  · simp only [Except.ok.injEq, Prod.mk.injEq] at h
    rw [← h.1]
    exact ⟨[], by simp, List.forall_mem_nil _⟩

/-- An allocated name is an identifier if its base is the identifier of a run of letters and digits
with the right end. -/
private theorem isIdentifier_of_allocate {claimed next : Claimed} {run mark name : String}
    {suffixes : Bool} {collision : Collision} (hmark : ∀ c ∈ mark.toList, c.isAlphanum = true)
    (hrun : ∀ c ∈ run.toList, c.isAlphanum = true) (ht : 'T' ∈ run.toList) (hl : 'l' ∈ run.toList)
    (h : claimed.allocate (identifier run) mark suffixes collision = .ok (name, next)) :
    IsIdentifier name := by
  obtain ⟨more, hname, hmore⟩ := allocate_eq hmark h
  have hbase : ∀ c ∈ run.toList, c ∈ name.toList := by
    intro c hc
    rw [hname, List.mem_append]
    left
    unfold identifier
    split
    · rw [String.toList_append]
      exact List.mem_append_right _ hc
    · exact hc
  refine ⟨?_, ?_, notKeyword_of_letters (hbase _ ht) (hbase _ hl)⟩
  · obtain ⟨c, rest, hhead, hc⟩ := isAlpha_head_identifier (List.ne_nil_of_mem ht) hrun
    exact ⟨c, rest ++ more, by rw [hname, hhead, List.cons_append], hc⟩
  · rw [hname, List.forall_mem_append]
    exact ⟨isAlphanum_of_mem_identifier hrun, hmore⟩

/-- Every class name that is given out is an identifier. -/
theorem Allocated.isIdentifier {name : String} (h : Allocated name) : IsIdentifier name := by
  cases h with
  | tool claimed next server tool suffixes h =>
    refine isIdentifier_of_allocate (fun c => isAlphanum_of_mem_mark) ?_ ?_ ?_ h
    · rw [String.toList_append, String.toList_append, List.forall_mem_append,
        List.forall_mem_append]
      exact ⟨⟨isAlphanum_of_mem_studly server, isAlphanum_of_mem_studly tool⟩, List.all_eq_true.1 rfl⟩
    · rw [String.toList_append]
      exact List.mem_append_right _ (by decide)
    · rw [String.toList_append]
      exact List.mem_append_right _ (by decide)
  | toolset claimed next server suffixes h =>
    refine isIdentifier_of_allocate (fun c => isAlphanum_of_mem_mark) ?_ ?_ ?_ h
    · rw [String.toList_append, List.forall_mem_append]
      exact ⟨isAlphanum_of_mem_studly server, List.all_eq_true.1 rfl⟩
    · rw [String.toList_append]
      exact List.mem_append_right _ (by decide)
    · rw [String.toList_append]
      exact List.mem_append_right _ (by decide)

/-! ## Capitals -/

/-- A text that is joined from its words starts with a capital letter or a digit. -/
theorem isUpper_or_isDigit_head_studly (value : String) :
    ∃ c rest, (studly value).toList = c :: rest ∧ (c.isUpper = true ∨ c.isDigit = true) := by
  unfold studly
  split
  · exact ⟨'M', ['c', 'p'], by rfl, Or.inl (by decide)⟩
  · rename_i run hrun
    rw [String.toList_ofList]
    cases hwords : words value.toList with
    | nil =>
      rw [hwords] at hrun
      exact absurd rfl hrun
    | cons w more =>
      have hmem : w ∈ words value.toList := hwords ▸ List.mem_cons_self
      obtain ⟨hne, hw⟩ := isAlphanum_of_mem_words w hmem
      obtain ⟨c, rest, rfl⟩ := List.exists_cons_of_ne_nil hne
      have hc := hw c List.mem_cons_self
      exact ⟨c.toUpper, _, rfl, isUpper_or_isDigit_toUpper hc⟩

/-- What is made an identifier starts with a capital letter if it starts with that or a digit. -/
theorem startsWithCapital_identifier {value : String}
    (h : ∃ c rest, value.toList = c :: rest ∧ (c.isUpper = true ∨ c.isDigit = true)) :
    ∃ c rest, (identifier value).toList = c :: rest ∧ c.isUpper = true := by
  obtain ⟨c, rest, hvalue, hc⟩ := h
  unfold identifier
  split
  · exact ⟨'M', 'c' :: 'p' :: value.toList, by rw [String.toList_append]; rfl, by decide⟩
  · rename_i hplain
    refine ⟨c, rest, hvalue, hc.resolve_right fun hdigit => hplain ?_⟩
    rw [startsWithDigit, hvalue, Bool.or_eq_true]
    exact Or.inl (isAnyDigit_of_isDigit hdigit)

/-- The package of a server is a class name. -/
theorem isClassName_package (server : String) : IsClassName (package server) where
  toIsIdentifier := isIdentifier_package server
  startsWithCapital := startsWithCapital_identifier (isUpper_or_isDigit_head_studly server)

private theorem startsWithCapital_of_allocate {claimed next : Claimed}
    {server ending mark name : String} {suffixes : Bool} {collision : Collision}
    (hmark : ∀ c ∈ mark.toList, c.isAlphanum = true)
    (h : claimed.allocate (identifier (studly server ++ ending)) mark suffixes collision
      = .ok (name, next)) : ∃ c rest, name.toList = c :: rest ∧ c.isUpper = true := by
  obtain ⟨more, hname, -⟩ := allocate_eq hmark h
  obtain ⟨c, rest, hstudly, hc⟩ := isUpper_or_isDigit_head_studly server
  have hvalue : (studly server ++ ending).toList = c :: (rest ++ ending.toList) := by
    rw [String.toList_append, hstudly, List.cons_append]
  obtain ⟨c, rest, hbase, hc⟩ := startsWithCapital_identifier ⟨c, _, hvalue, hc⟩
  exact ⟨c, rest ++ more, by rw [hname, hbase, List.cons_append], hc⟩

/-- Every class name that is given out begins with a capital letter. -/
theorem Allocated.isClassName {name : String} (h : Allocated name) : IsClassName name where
  toIsIdentifier := h.isIdentifier
  startsWithCapital := by
    cases h with
    | tool claimed next server tool suffixes h =>
      rw [Claimed.allocateTool, toolBase, String.append_assoc] at h
      exact startsWithCapital_of_allocate (fun c => isAlphanum_of_mem_mark) h
    | toolset claimed next server suffixes h =>
      exact startsWithCapital_of_allocate (fun c => isAlphanum_of_mem_mark) h

end ToolBindings.Name
