import ToolBindings.Proofs.Literal.Reading
import ToolBindings.Proofs.Text.Printable

/-!
# Closed literals

Whatever data a literal stands for, it is one line of printable characters (`printable_print`): what
is not printable in a text is escaped, and an escape, a number and the marks in between are ASCII.
In generated source a delimiter follows each literal, and up to that the literal reads as its data,
whatever comes behind (`closed_print`). So no text can end its literal early and go on as source.
-/

namespace ToolBindings.Literal

open Text (Printable)

/-! ## Printable characters -/

/-- An escape is printable if what stands behind the backslash is. -/
theorem printable_escape {e : Char} (he : Text.isPrintable e = true) {s : List Char}
    (hs : Printable s) : Printable ('\\' :: e :: s) := by
  have hslash : Text.isPrintable '\\' = true := by decide
  simp [hslash, he, hs]

theorem printable_numberEscape (n : Nat) : Printable (numberEscape n) := by
  unfold numberEscape
  split
  · exact printable_escape (by decide) (Text.printable_hexGroup 2 n)
  · split
    · exact printable_escape (by decide) (Text.printable_hexGroup 4 n)
    · exact printable_escape (by decide) (Text.printable_hexGroup 8 n)

/-- A character between quotes is printable or escaped. -/
theorem printable_escapeChar {quote : Char} (hquote : Text.isPrintable quote = true) (c : Char) :
    Printable (escapeChar quote c) := by
  unfold escapeChar
  split
  · rename_i h
    have hc : Text.isPrintable c = true := by
      rcases h with rfl | rfl
      · exact hquote
      · decide
    exact printable_escape hc Text.printable_nil
  · split
    · exact printable_escape (by decide) Text.printable_nil
    · split
      · exact printable_escape (by decide) Text.printable_nil
      · split
        · exact printable_escape (by decide) Text.printable_nil
        · split
          · rename_i hc
            simpa using hc
          · exact printable_numberEscape c.toNat

theorem printable_quoted (s : String) : Printable (quoted s) := by
  have hquote : Text.isPrintable (quoteOf s.toList) = true := by
    rcases quoteOf_eq s.toList with h | h <;> rw [h] <;> decide
  have hbody : Printable (s.toList.flatMap (escapeChar (quoteOf s.toList))) := by
    intro c hc
    obtain ⟨d, -, hd⟩ := List.mem_flatMap.1 hc
    exact printable_escapeChar hquote d c hd
  simp [quoted, hquote, hbody]

theorem printable_of_spells {negative : Bool} {s : List Char} {v : Json}
    (h : Numeral.Spells negative s v) : Printable (Numeral.minus negative ++ s) := by
  apply Numeral.forall_mem_of_spells _ rfl h
  intro c hc
  apply Text.isPrintable_of_isAlphanum
  simp [Char.isAlphanum, hc]

mutual

/-- The literal of data has printable characters only. -/
theorem printable_print : ∀ v : Json, Printable (print v)
  | .null | .bool true | .bool false => List.all_eq_true.1 rfl
  | .int i => by
    rw [print, Numeral.decimalInt_eq]
    exact printable_of_spells (Numeral.spells_int i)
  | .float (.finite negative x) => printable_of_spells (Numeral.spells_finite negative x)
  | .float (.infinite true) | .float (.infinite false) | .float .nan => List.all_eq_true.1 rfl
  | .text s => printable_quoted s
  | .list [] | .map [] => List.all_eq_true.1 rfl
  | .list (item :: items) => by
    have hmarks : Printable ['[', ']'] := List.all_eq_true.1 rfl
    have hitem := printable_print item
    have hitems := printable_printItems items
    simpa [print, hitem, hitems] using hmarks
  | .map ((key, value) :: fields) => by
    have hmarks : Printable ['\x7b', ':', ' ', '\x7d'] := List.all_eq_true.1 rfl
    have hkey := printable_quoted key
    have hvalue := printable_print value
    have hfields := printable_printFields fields
    simpa [print, hkey, hvalue, hfields] using hmarks

theorem printable_printItems : ∀ items : List Json, Printable (printItems items)
  | [] => Text.printable_nil
  | item :: items => by
    have hmarks : Printable [',', ' '] := List.all_eq_true.1 rfl
    have hitem := printable_print item
    have hitems := printable_printItems items
    simpa [printItems, hitem, hitems] using hmarks

theorem printable_printFields : ∀ fields : List (String × Json), Printable (printFields fields)
  | [] => Text.printable_nil
  | (key, value) :: fields => by
    have hmarks : Printable [',', ' ', ':', ' '] := List.all_eq_true.1 rfl
    have hkey := printable_quoted key
    have hvalue := printable_print value
    have hfields := printable_printFields fields
    simpa [printFields, hkey, hvalue, hfields] using hmarks

end

/-! ## Whole literals -/

/-- The literal of data with finite numbers is one line of printable characters. Before a delimiter,
and whatever text follows that, it reads as the data, each map with its keys in their order, and
what is left is the text from the delimiter on. -/
theorem closed_print {v : Json} (hkeys : v.distinctKeys = true) (hfinite : v.allFinite = true) :
    (∀ c ∈ print v, Text.isPrintable c = true ∧ c ≠ '\n' ∧ c ≠ '\r') ∧
      ∀ d ∈ delimiters, ∀ rest, read (print v ++ d :: rest) = .ok (v, d :: rest) := by
  have hprintable := printable_print v
  constructor
  · intro c hc
    exact ⟨hprintable c hc, hprintable.not_lineEnd hc⟩
  · intro d hd rest
    exact read_print hkeys hfinite (ends_delimiter hd rest)

/-- Texts with quotes, line ends and the marks of source in them, beside numbers of both kinds. -/
def unruly : Json := .map [
  ("it's \"so\"", .list [.text "')\r\n\u2028\x00\\", .int (-3), .float (.finite true .zero)]),
  ("", .map [("]", .null), (",", .bool true)])]

theorem closed_print_unruly :
    unruly.distinctKeys = true ∧ unruly.allFinite = true ∧
      (∀ c ∈ print unruly, Text.isPrintable c = true ∧ c ≠ '\n' ∧ c ≠ '\r') ∧
      read (print unruly ++ ')' :: "\n'), 0: [".toList)
        = .ok (unruly, ')' :: "\n'), 0: [".toList) := by
  have hkeys : unruly.distinctKeys = true := by decide
  have hfinite : unruly.allFinite = true := by decide
  obtain ⟨hprintable, hread⟩ := closed_print hkeys hfinite
  exact ⟨hkeys, hfinite, hprintable, hread ')' (by decide) _⟩

end ToolBindings.Literal
