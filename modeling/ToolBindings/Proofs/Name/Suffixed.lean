import Mathlib.Order.Bounds.Basic
import ToolBindings.Proofs.Name.Allocation
import ToolBindings.Proofs.Name.Identifier
import ToolBindings.Proofs.Text.Scan

/-!
# The forms of class names

A class name is a base, a base with a mark, or that with a counter from 2 on. Every base of a tool
ends in `Tool`, and neither a mark nor a counter has an `l`, so that the last `l` of a class name is
the end of its base: names of different bases differ, whatever is put behind them, and so do names
of different marks (`suffixedName_inj`). The base of a toolset ends in `Toolset`, so that no class
name of a tool is one of a toolset (`tool_ne_toolset`).
-/

namespace ToolBindings.Name

/-! ## Marks -/

/-- Eight hexadecimal digits in lower case. -/
structure IsMark (mark : String) : Prop where
  length : mark.toList.length = 8
  isHex : ∀ c ∈ mark.toList, c ∈ "0123456789abcdef".toList

/-- A digest is sixteen octets. -/
theorem length_digest (octets : List UInt8) : (Md5.digest octets).length = 16 := by
  simp [Md5.digest, Md5.lowFirst]

/-- What marks a text is a mark. -/
theorem isMark_mark (value : String) : IsMark (mark value) := by
  have htext : (mark value).toList = (Md5.hex (Text.Utf8.encode value)).take 8 := by
    rw [mark, String.toList_ofList]
  refine ⟨?_, ?_⟩
  · have hlength : (Md5.hex (Text.Utf8.encode value)).length = 32 := by
      rw [Md5.hex, List.length_flatMap]
      simp [length_digest, List.map_const']
    rw [htext, List.length_take, hlength]
    rfl
  · intro c hc
    rw [htext] at hc
    obtain ⟨b, -, hb⟩ := List.mem_flatMap.1 (List.mem_of_mem_take hc)
    exact Text.mem_hexDigits_of_mem_hexGroup hb

/-! ## The last letter of a base -/

/-- The last `l` of a name stands between a front and a back. -/
structure LastL (name : String) (front back : List Char) : Prop where
  toList_eq : name.toList = front ++ 'l' :: back
  not_mem : 'l' ∉ back

/-- What stands before and behind the last `l` is decided by the name. -/
theorem LastL.unique {name : String} {front front' back back' : List Char}
    (h : LastL name front back) (h' : LastL name front' back') : front = front' ∧ back = back' := by
  have hrun {front back : List Char} (h : LastL name front back) :
      name.toList.reverse.takeWhile (· ≠ 'l') = back.reverse := by
    have hback : ∀ c ∈ back.reverse, decide (c ≠ 'l') = true := by
      intro c hc
      rw [decide_eq_true_eq]
      rintro rfl
      exact h.not_mem (List.mem_reverse.1 hc)
    have hstop : Text.StopsAt (· ≠ 'l') (['l'] ++ front.reverse) := rfl
    rw [h.toList_eq, List.reverse_append, List.reverse_cons, List.append_assoc]
    exact Text.takeWhile_run hback hstop
  have hbacks : back = back' := List.reverse_injective ((hrun h).symm.trans (hrun h'))
  subst hbacks
  have htexts := h.toList_eq.symm.trans h'.toList_eq
  exact ⟨List.append_cancel_right htexts, rfl⟩

theorem identifier_append (value ending : String) :
    ∃ front, (identifier (value ++ ending)).toList = front ++ ending.toList := by
  unfold identifier
  split
  · exact ⟨"Mcp".toList ++ value.toList, by simp⟩
  · exact ⟨value.toList, by simp⟩

/-- The base name of a tool ends in `Tool`. -/
theorem lastL_toolBase (server tool : String) : ∃ front, LastL (toolBase server tool) front [] := by
  obtain ⟨front, hfront⟩ := identifier_append (studly server ++ studly tool) "Tool"
  refine ⟨front ++ ['T', 'o', 'o'], ?_, List.not_mem_nil⟩
  rw [toolBase, hfront, List.append_assoc]
  rfl

/-- The base name of a toolset ends in `Toolset`. -/
theorem lastL_toolsetBase (server : String) :
    ∃ front, LastL (toolsetBase server) front ['s', 'e', 't'] := by
  obtain ⟨front, hfront⟩ := identifier_append (studly server) "Toolset"
  refine ⟨front ++ ['T', 'o', 'o'], ?_, by decide⟩
  rw [toolsetBase, hfront, List.append_assoc]
  rfl

/-! ## Suffixed names -/

/-- The `n`-th name for a base that is taken: with the mark alone, then with counters from 2 on. -/
def suffixedName (base mark : String) : Nat → String
  | 0 => base ++ mark
  | n + 1 => Claimed.counted (base ++ mark) (n + 2)

/-- What a suffixed name has behind its base. -/
def suffixText (mark : String) : Nat → List Char
  | 0 => mark.toList
  | n + 1 => mark.toList ++ Text.decimal (n + 2)

theorem toList_suffixedName (base mark : String) (n : Nat) :
    (suffixedName base mark n).toList = base.toList ++ suffixText mark n := by
  cases n with
  | zero => exact String.toList_append
  | succ n => simp [suffixedName, suffixText, Claimed.counted]

/-- A mark and a counter are hexadecimal digits throughout. -/
theorem IsMark.hex_of_mem_suffixText {mark : String} (h : IsMark mark) {n : Nat} {c : Char}
    (hc : c ∈ suffixText mark n) : c ∈ "0123456789abcdef".toList := by
  cases n with
  | zero => exact h.isHex c hc
  | succ n =>
    rcases List.mem_append.1 hc with hc | hc
    · exact h.isHex c hc
    · have hdigits : ∀ d : Char, d.isDigit = true → d ∈ "0123456789abcdef".toList := by
        intro d hd
        have hrange : 48 ≤ d.toNat ∧ d.toNat ≤ 57 := by
          simpa [Char.isDigit, UInt32.le_iff_toNat_le] using hd
        have hall : ∀ m : Fin 10, Char.ofNat (48 + m) ∈ "0123456789abcdef".toList := by decide
        have hm := hall ⟨d.toNat - 48, by omega⟩
        have hd' : 48 + (d.toNat - 48) = d.toNat := by omega
        rwa [hd', Char.ofNat_toNat] at hm
      exact hdigits c (Text.isDigit_of_mem_decimal hc)

theorem IsMark.suffixText_ne_nil {mark : String} (h : IsMark mark) (n : Nat) :
    suffixText mark n ≠ [] := by
  intro hnil
  have hmark : mark.toList = [] := by
    cases n with
    | zero => exact hnil
    | succ n => exact (List.append_eq_nil_iff.1 hnil).1
  have hlength := h.length
  rw [hmark] at hlength
  cases hlength

/-- The mark and the counter can be told from what is behind a base. -/
theorem suffixText_inj {mark mark' : String} (h : IsMark mark) (h' : IsMark mark') {n n' : Nat}
    (heq : suffixText mark n = suffixText mark' n') : mark = mark' ∧ n = n' := by
  have hsplit (mark : String) (n : Nat) :
      suffixText mark n = mark.toList ++ if n = 0 then [] else Text.decimal (n + 1) := by
    cases n with
    | zero => exact (List.append_nil _).symm
    | succ n => rfl
  rw [hsplit mark n, hsplit mark' n'] at heq
  obtain ⟨hmark, hrest⟩ := List.append_inj heq (h.length.trans h'.length.symm)
  refine ⟨String.toList_injective hmark, ?_⟩
  -- a mark alone is shorter than one with a counter
  have hnone (k : Nat) : ([] : List Char) ≠ Text.decimal k := (Text.decimal_ne_nil k).symm
  by_cases hn : n = 0
  · by_cases hn' : n' = 0
    · rw [hn, hn']
    · rw [if_pos hn, if_neg hn'] at hrest
      exact absurd hrest (hnone _)
  · by_cases hn' : n' = 0
    · rw [if_neg hn, if_pos hn'] at hrest
      exact absurd hrest.symm (hnone _)
    · rw [if_neg hn, if_neg hn'] at hrest
      have hvalues := congrArg Text.decimalValue hrest
      rw [Text.decimalValue_decimal, Text.decimalValue_decimal] at hvalues
      omega

/-- What is put behind a base leaves its last `l` the last one. -/
theorem LastL.suffixedName {base mark : String} {front back : List Char}
    (h : LastL base front back) (hmark : IsMark mark) (n : Nat) :
    LastL (suffixedName base mark n) front (back ++ suffixText mark n) := by
  refine ⟨?_, ?_⟩
  · rw [toList_suffixedName, h.toList_eq, List.append_assoc, List.cons_append]
  · intro hmem
    rcases List.mem_append.1 hmem with hmem | hmem
    · exact h.not_mem hmem
    · exact absurd (hmark.hex_of_mem_suffixText hmem) (by decide)

section

variable {server tool server' tool' mark mark' : String} {n n' : Nat}

/-- Suffixed names of tools with another base, another mark or another counter are different. -/
theorem suffixedName_inj (h : IsMark mark) (h' : IsMark mark')
    (heq : suffixedName (toolBase server tool) mark n
      = suffixedName (toolBase server' tool') mark' n') :
    toolBase server tool = toolBase server' tool' ∧ mark = mark' ∧ n = n' := by
  obtain ⟨front, hbase⟩ := lastL_toolBase server tool
  obtain ⟨front', hbase'⟩ := lastL_toolBase server' tool'
  have hname := hbase.suffixedName h n
  rw [heq] at hname
  obtain ⟨hfront, hback⟩ := hname.unique (hbase'.suffixedName h' n')
  refine ⟨String.toList_injective ?_, suffixText_inj h h' hback⟩
  rw [hbase.toList_eq, hbase'.toList_eq, hfront]

/-- No suffixed name of a tool is a base name of a tool. -/
theorem suffixedName_ne_toolBase (h : IsMark mark) :
    suffixedName (toolBase server tool) mark n ≠ toolBase server' tool' := by
  intro heq
  obtain ⟨front, hbase⟩ := lastL_toolBase server tool
  obtain ⟨front', hbase'⟩ := lastL_toolBase server' tool'
  have hname := hbase.suffixedName h n
  rw [heq] at hname
  exact h.suffixText_ne_nil n (hname.unique hbase').2

/-- Two words before `Tool` are more than `Mcp`. -/
theorem toolBase_ne_mcpTool (server tool : String) : toolBase server tool ≠ "McpTool" := by
  obtain ⟨c, first, hserver, -⟩ := isUpper_or_isDigit_head_studly server
  obtain ⟨d, second, htool, hd⟩ := isUpper_or_isDigit_head_studly tool
  have hrun : (studly server ++ studly tool ++ "Tool").toList
      = c :: first ++ d :: second ++ "Tool".toList := by
    rw [String.toList_append, String.toList_append, hserver, htool]
  have hending {front : List Char} (h : front ++ "Tool".toList = "McpTool".toList) :
      front = ['M', 'c', 'p'] :=
    List.append_cancel_right h
  intro hname
  have htext := congrArg String.toList hname
  rw [toolBase, identifier] at htext
  split at htext
  · rw [String.toList_append, hrun, ← List.append_assoc] at htext
    have hlength := congrArg List.length (hending htext)
    simp at hlength
  · rw [hrun] at htext
    have hfront := hending htext
    -- the second word would start with the small letter `c` or `p`
    have hmem : d ∈ ['c', 'p'] := by
      rw [List.cons_append, List.cons.injEq] at hfront
      rw [← hfront.2]
      simp
    revert hd
    rcases List.mem_pair.1 hmem with rfl | rfl <;> decide

end

/-! ## Allocation and the forms -/

namespace Claimed

variable {claimed next : Claimed} {base mark name : String}

/-- Where the first `n` suffixed names are taken and no others, the next is given. -/
theorem suffixed_eq (n : Nat) (h : ∀ k, suffixedName base mark k ∈ claimed ↔ k < n) :
    claimed.suffixed base mark = suffixedName base mark n := by
  unfold suffixed
  dsimp only
  cases n with
  | zero =>
    have hfree : base ++ mark ∉ claimed := fun hmem => absurd ((h 0).1 hmem) (Nat.lt_irrefl 0)
    rw [if_neg hfree]
    rfl
  | succ n =>
    have htaken : base ++ mark ∈ claimed := (h 0).2 (Nat.succ_pos n)
    -- behind the mark alone the names are numbered from 2 on
    have hleast : IsLeast {k | 2 ≤ k ∧ counted (base ++ mark) k ∉ claimed} (n + 2) := by
      refine ⟨⟨by omega, fun hmem => absurd ((h (n + 1)).1 hmem) (Nat.lt_irrefl _)⟩, ?_⟩
      rintro k ⟨hk, hfree⟩
      obtain ⟨c, rfl⟩ := Nat.exists_eq_add_of_le' hk
      by_contra hlt
      exact hfree ((h (c + 1)).2 (by omega))
    rw [if_pos htaken, (isLeast_freeCounter claimed (base ++ mark) 2).unique hleast]
    rfl

/-- What is given out is the base or a suffixed name of it. -/
theorem allocate_forms {suffixes : Bool} {collision : Collision}
    (h : claimed.allocate base mark suffixes collision = .ok (name, next)) :
    name = base ∨ ∃ n, name = suffixedName base mark n := by
  unfold allocate at h
  split at h
  · split at h
    · cases h
      right
      unfold suffixed
      dsimp only
      split
      · have hle := le_freeCounter claimed (base ++ mark) (claimed.size + 1) 2
        obtain ⟨c, hc⟩ := Nat.exists_eq_add_of_le' hle
        exact ⟨c + 1, by rw [hc, suffixedName]⟩
      · exact ⟨0, rfl⟩
    · cases h
  · cases h
    exact Or.inl rfl

/-- The base class of tools is no class of a tool. -/
theorem ne_mcpTool_of_allocateTool {server tool : String} {suffixes : Bool}
    (h : claimed.allocateTool server tool suffixes = .ok (name, next)) : name ≠ "McpTool" := by
  rcases allocate_forms h with rfl | ⟨n, rfl⟩
  · exact toolBase_ne_mcpTool server tool
  · obtain ⟨front, hbase⟩ := lastL_toolBase server tool
    have hmark := isMark_mark (server ++ "|" ++ tool)
    have hmcp : LastL "McpTool" "McpToo".toList [] := ⟨rfl, List.not_mem_nil⟩
    intro hname
    have hsuffixed := hbase.suffixedName hmark n
    rw [hname] at hsuffixed
    exact hmark.suffixText_ne_nil n (hsuffixed.unique hmcp).2

/-- What is given out to a tool has no `s` behind its last `l`. -/
theorem lastL_of_allocateTool {server tool : String} {suffixes : Bool}
    (h : claimed.allocateTool server tool suffixes = .ok (name, next)) :
    ∃ front back, LastL name front back ∧ 's' ∉ back := by
  obtain ⟨front, hbase⟩ := lastL_toolBase server tool
  have hmark := isMark_mark (server ++ "|" ++ tool)
  rcases allocate_forms h with rfl | ⟨n, rfl⟩
  · exact ⟨front, [], hbase, List.not_mem_nil⟩
  · refine ⟨front, _, hbase.suffixedName hmark n, fun hmem => ?_⟩
    exact absurd (hmark.hex_of_mem_suffixText hmem) (by decide)

/-- What is given out to a toolset has an `s` behind its last `l`. -/
theorem lastL_of_allocateToolset {server : String} {suffixes : Bool}
    (h : claimed.allocateToolset server suffixes = .ok (name, next)) :
    ∃ front back, LastL name front back ∧ 's' ∈ back := by
  obtain ⟨front, hbase⟩ := lastL_toolsetBase server
  rcases allocate_forms h with rfl | ⟨n, rfl⟩
  · exact ⟨front, _, hbase, by decide⟩
  · exact ⟨front, _, hbase.suffixedName (isMark_mark server) n, by simp⟩

/-- No name of a tool is a name of a toolset. -/
theorem tool_ne_toolset {claimed' next' : Claimed} {server tool server' toolsetName : String}
    {suffixes suffixes' : Bool} (h : claimed.allocateTool server tool suffixes = .ok (name, next))
    (h' : claimed'.allocateToolset server' suffixes' = .ok (toolsetName, next')) :
    name ≠ toolsetName := by
  rintro rfl
  obtain ⟨front, back, hname, hnone⟩ := lastL_of_allocateTool h
  obtain ⟨front', back', hname', hsome⟩ := lastL_of_allocateToolset h'
  rw [(hname.unique hname').2] at hnone
  exact hnone hsome

end Claimed

end ToolBindings.Name
