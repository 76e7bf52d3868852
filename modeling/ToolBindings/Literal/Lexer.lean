import ToolBindings.Data.Assembly
import ToolBindings.Decimal.Layout
import ToolBindings.Literal.Quoted
import ToolBindings.Text.Scan

/-!
# Tokens of source text

Blanks, marks, quoted texts, numbers and names, as they stand in expressions of the generated
source. `None`, `True` and `False` are values, every other word is a name.
-/

namespace ToolBindings.Literal

/-- Blanks between tokens. -/
def isBlank (c : Char) : Bool := c == ' ' || c == '\n'

/-- The marks of expressions. -/
def isMark (c : Char) : Bool :=
  c == '[' || c == ']' || c == '\x7b' || c == '\x7d' || c == ',' || c == ':' ||
    c == '(' || c == ')' || c == '.'

/-- Characters of names. -/
def isNameChar (c : Char) : Bool := c.isAlphanum || c == '_'

/-- Characters of numbers. -/
def isNumberChar (c : Char) : Bool := c.isAlphanum || c == '.' || c == '+' || c == '-'

/-- The token of a number: an integer, or a number with a point or an exponent. A minus before a
name leaves the name. -/
def number? (word : List Char) : Option Token :=
  let (negative, rest) :=
    match word with
    | '-' :: rest => (true, rest)
    | rest => (false, rest)
  if rest.all Char.isAlpha ∧ rest ≠ [] then some (.name (String.ofList rest))
  else
    match Numeral.unsigned? negative rest with
    | none => none
    | some n =>
      if n.whole.isEmpty then none
      else
        match n.toInt? with
        | some i => some (.scalar (.int i))
        | none => some (.scalar (.float n.toBinary64))

/-- The token of a word. -/
def word (name : String) : Token :=
  if name = "None" then .scalar .null
  else if name = "True" then .scalar (.bool true)
  else if name = "False" then .scalar (.bool false)
  else .name name

/-- The first token, when no blank stands in front of it. -/
def token? : List Char → Option (Token × List Char)
  | [] => none
  | c :: rest =>
    if isMark c then some (.mark c, rest)
    else if c = '\'' ∨ c = '"' then
      match body? c rest with
      | some (cs, after) => some (.scalar (.text (String.ofList cs)), after)
      | none => none
    else if c.isDigit ∨ c = '-' then
      match number? (c :: rest.takeWhile isNumberChar) with
      | some token => some (token, rest.dropWhile isNumberChar)
      | none => none
    else if isNameChar c then
      some (word (String.ofList (c :: rest.takeWhile isNameChar)), rest.dropWhile isNameChar)
    else none

/-- A token uses up at least one character. -/
theorem length_token?_lt {s : List Char} {t : Token} {r : List Char}
    (h : token? s = some (t, r)) : r.length < s.length := by
  unfold token? at h
  split at h
  · simp at h
  · rename_i c rest
    have hnumber := Text.length_dropWhile_le isNumberChar rest
    have hname := Text.length_dropWhile_le isNameChar rest
    split at h
    · simp_all
    · split at h
      · split at h
        · rename_i hb
          have hbody := length_body?_le hb
          simp only [Option.some.injEq, Prod.mk.injEq] at h
          simp only [List.length_cons, ← h.2]
          exact Nat.lt_succ_of_le hbody
        · simp at h
      · split at h
        · split at h
          · simp only [Option.some.injEq, Prod.mk.injEq] at h
            simp only [List.length_cons, ← h.2]
            omega
          · simp at h
        · split at h
          · simp only [Option.some.injEq, Prod.mk.injEq] at h
            simp only [List.length_cons, ← h.2]
            omega
          · simp at h

/-- Cuts the tokens of source text. -/
def lexer : Lexer where
  next? s := token? (s.dropWhile isBlank)
  shorter s _ _ h :=
    Nat.lt_of_lt_of_le (length_token?_lt h) (Text.length_dropWhile_le isBlank s)

/-- Reads a literal off the front of a text. -/
def read (s : List Char) : Except ReadFault (Json × List Char) := Assembly.read lexer s

end ToolBindings.Literal
