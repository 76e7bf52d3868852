import ToolBindings.Data.Entries
import ToolBindings.Text.Scan

/-!
# Placeholders

A placeholder in a configuration text, a dollar sign and `env:NAME` in braces, stands for the value
of an environment variable, and for nothing when the variable is not set. Texts are read once from
left to right; what a placeholder stands for is not read again.
-/

namespace ToolBindings

/-- The variables of the environment. -/
abbrev Environment := Entries String String

namespace Placeholder

/-- What every placeholder starts with. -/
def opening : List Char := ['$', '\x7b', 'e', 'n', 'v', ':']

/-- A character that a variable name starts with. -/
def startsName (c : Char) : Bool := c.isAlpha || c == '_'

/-- A character of a variable name. -/
def isNameChar (c : Char) : Bool := c.isAlphanum || c == '_'

/-- The name and the closing brace at the front of a text, and what follows them. -/
def name? (s : List Char) : Option (List Char × List Char) :=
  match s with
  | [] => none
  | c :: rest =>
    if startsName c then
      match rest.dropWhile isNameChar with
      | '\x7d' :: after => some (c :: rest.takeWhile isNameChar, after)
      | _ => none
    else none

/-- The placeholder at the front of a text: its name, and what follows it. -/
def read? (s : List Char) : Option (List Char × List Char) :=
  match Text.dropText? opening s with
  | some rest => name? rest
  | none => none

theorem length_dropText?_le {front s rest : List Char} (h : Text.dropText? front s = some rest) :
    rest.length ≤ s.length := by
  fun_induction Text.dropText? front s generalizing rest <;> grind

/-- A placeholder uses up at least one character. -/
theorem length_read?_lt {s : List Char} {p : List Char × List Char} (h : read? s = some p) :
    p.2.length < s.length := by
  unfold read? at h
  split at h
  · rename_i rest hd
    have hle := length_dropText?_le hd
    unfold name? at h
    split at h
    · simp at h
    · rename_i c more
      have hdrop := Text.length_dropWhile_le isNameChar more
      split at h
      · split at h
        · rename_i after ha
          rw [ha] at hdrop
          simp only [Option.some.injEq] at h
          subst h
          simp only [List.length_cons] at hle hdrop ⊢
          omega
        · simp at h
      · simp at h
  · simp at h

/-- A text with every placeholder replaced by the value of its variable. -/
def substitute (environment : Environment) (s : List Char) : List Char :=
  match _h : read? s with
  | some (name, after) =>
    ((Entries.get? (String.ofList name) environment).getD "").toList ++
      substitute environment after
  | none =>
    match s with
    | [] => []
    | c :: rest => c :: substitute environment rest
termination_by s.length
decreasing_by
  · exact length_read?_lt ‹_›
  · simp

/-- A text with every placeholder replaced. -/
def resolve (environment : Environment) (text : String) : String :=
  String.ofList (substitute environment text.toList)

end Placeholder
end ToolBindings
