import ToolBindings.Data.Assembly
import ToolBindings.Decimal.Layout
import ToolBindings.Data.Loose
import ToolBindings.Text.Scan

/-!
# Tokens of JSON text

Blanks, marks, texts in double quotes, and words. A word is a run of letters, digits, signs and
points; it is one of `null`, `true`, `false`, `NaN`, `Infinity`, `-Infinity` or a number. A number
without point and exponent is an integer of any size, any other a binary64 number.
-/

namespace ToolBindings.Json

/-- Blanks between tokens. -/
def isBlank (c : Char) : Bool := c == ' ' || c == '\n' || c == '\t' || c == '\r'

/-- The marks of JSON text. -/
def isMark (c : Char) : Bool :=
  c == '[' || c == ']' || c == '\x7b' || c == '\x7d' || c == ',' || c == ':'

/-- Characters of words. -/
def isWordChar (c : Char) : Bool := c.isAlphanum || c == '-' || c == '+' || c == '.'

/-! ## Texts -/

/-- The character that a one-letter escape names. -/
def escape? : Char → Option Nat
  | '"' => some 34
  | '\\' => some 92
  | '/' => some 47
  | 'b' => some 8
  | 'f' => some 12
  | 'n' => some 10
  | 'r' => some 13
  | 't' => some 9
  | _ => none

/-- The rest of a text after its opening quote: its characters and 16-bit units by number, and what
follows the closing quote. Control characters stand only as escapes. -/
def units? : List Char → Option (List Nat × List Char)
  | [] => none
  | '"' :: rest => some ([], rest)
  | '\\' :: 'u' :: a :: b :: c :: d :: rest =>
    match Text.hexGroupValue? [a, b, c, d], units? rest with
    | some n, some (us, after) => some (n :: us, after)
    | _, _ => none
  | '\\' :: e :: rest =>
    match escape? e, units? rest with
    | some n, some (us, after) => some (n :: us, after)
    | _, _ => none
  | c :: rest =>
    if c.toNat < 32 ∨ c = '\\' then none
    else
      match units? rest with
      | some (us, after) => some (c.toNat :: us, after)
      | none => none

/-- The first half of a pair of 16-bit units. -/
def isHighUnit (n : Nat) : Bool := 0xD800 ≤ n && n < 0xDC00

/-- The second half of a pair of 16-bit units. -/
def isLowUnit (n : Nat) : Bool := 0xDC00 ≤ n && n < 0xE000

/-- The code point that a number stands for. -/
def unitPoint (n : Nat) : CodePoint :=
  if h : 0xD800 ≤ n ∧ n < 0xE000 then .half ⟨n - 0xD800, by omega⟩ else .char (Char.ofNat n)

/-- Code points of a list of numbers, with pairs of 16-bit units joined; `high` is a first half that
waits for its second. -/
def joinUnits : (high : Option Nat) → List Nat → List CodePoint
  | none, [] => []
  | some h, [] => [unitPoint h]
  | none, n :: rest =>
    if isHighUnit n then joinUnits (some n) rest else unitPoint n :: joinUnits none rest
  | some h, n :: rest =>
    if isLowUnit n then
      .char (Char.ofNat (0x10000 + (h - 0xD800) * 1024 + (n - 0xDC00))) :: joinUnits none rest
    else if isHighUnit n then unitPoint h :: joinUnits (some n) rest
    else unitPoint h :: unitPoint n :: joinUnits none rest

/-- What was joined holds no pair of halves any more, also after a first half that waited. -/
theorem apart_joinUnits (us : List Nat) :
    CodePoint.apart false (joinUnits none us) = true ∧
      ∀ high afterFirst, isHighUnit high = true →
        CodePoint.apart afterFirst (joinUnits (some high) us) = true := by
  have hpoint (n : Nat) : (unitPoint n).isFirst = isHighUnit n ∧
      (unitPoint n).isSecond = isLowUnit n := by
    rw [unitPoint]
    split
    · constructor <;> rw [Bool.eq_iff_iff] <;>
        simp [CodePoint.isFirst, CodePoint.isSecond, isHighUnit, isLowUnit] <;> omega
    · constructor <;> rw [Bool.eq_iff_iff] <;>
        simp [CodePoint.isFirst, CodePoint.isSecond, isHighUnit, isLowUnit] <;> omega
  have hnotLow {n : Nat} (h : isHighUnit n = true) : isLowUnit n = false := by
    simp [isHighUnit, isLowUnit] at *
    omega
  induction us with
  | nil =>
    refine ⟨rfl, fun high afterFirst hhigh => ?_⟩
    simp [joinUnits, CodePoint.apart, hpoint, hnotLow hhigh]
  | cons n us ih =>
    obtain ⟨hnone, hsome⟩ := ih
    refine ⟨?_, fun high afterFirst hhigh => ?_⟩
    · rw [joinUnits]
      split
      · rename_i hn
        exact hsome n false hn
      · rename_i hn
        simp [CodePoint.apart, hpoint, hn, hnone]
    · rw [joinUnits]
      split
      · simp [CodePoint.apart, CodePoint.isSecond, CodePoint.isFirst, hnone]
      · rename_i hlow
        split
        · rename_i hn
          simp [CodePoint.apart, hpoint, hnotLow hhigh, hsome n _ hn]
        · rename_i hn
          simp [CodePoint.apart, hpoint, hnotLow hhigh, hlow, hn, hnone]

/-- The text of numbers. -/
def looseText (us : List Nat) : LooseText := ⟨joinUnits none us, (apart_joinUnits us).1⟩

/-- The text of numbers as it is shown. -/
def shownText (us : List Nat) : String := (looseText us).shown

/-! ## Words -/

/-- The number that a word writes: an optional minus, digits without a leading zero, and optionally
a point with digits and an exponent. -/
def number? {κ τ : Type} (word : List Char) : Option (Data κ τ) :=
  let (negative, rest) :=
    match word with
    | '-' :: rest => (true, rest)
    | rest => (false, rest)
  match Numeral.unsigned? negative rest with
  | none => none
  | some n =>
    if n.whole.isEmpty ∨ (n.whole.head? = some '0' ∧ n.whole.length ≠ 1) ∨ n.fraction = some [] then
      none
    else
      match n.toInt? with
      | some i => some (.int i)
      | none => some (.float n.toBinary64)

/-- The value of a word. -/
def word? {κ τ : Type} (word : List Char) : Option (Data κ τ) :=
  if word = "null".toList then some .null
  else if word = "true".toList then some (.bool true)
  else if word = "false".toList then some (.bool false)
  else if word = "NaN".toList then some (.float .nan)
  else if word = "Infinity".toList then some (.float (.infinite false))
  else if word = "-Infinity".toList then some (.float (.infinite true))
  else number? word

/-! ## Tokens -/

section

variable {τ : Type} (text : List Nat → τ)

/-- The first token, when no blank stands in front of it; `text` is what the numbers of a text stand
for. -/
def token? : List Char → Option (Token τ × List Char)
  | [] => none
  | c :: rest =>
    if isMark c then some (.mark c, rest)
    else if c = '"' then
      match units? rest with
      | some (us, after) => some (.scalar (.text (text us)), after)
      | none => none
    else if isWordChar c then
      match word? (c :: rest.takeWhile isWordChar) with
      | some value => some (.scalar value, rest.dropWhile isWordChar)
      | none => none
    else none

/-- A text in quotes uses up what it is read from. -/
theorem length_units?_le {s : List Char} {p : List Nat × List Char} (h : units? s = some p) :
    p.2.length ≤ s.length := by
  fun_induction units? s generalizing p <;> grind

variable {text}

/-- A token uses up at least one character. -/
theorem length_token?_lt {s : List Char} {t : Token τ} {r : List Char}
    (h : token? text s = some (t, r)) : r.length < s.length := by
  unfold token? at h
  split at h
  · simp at h
  · rename_i c rest
    split at h
    · simp_all
    · split at h
      · split at h
        · rename_i hu
          have := length_units?_le hu
          simp only [Option.some.injEq, Prod.mk.injEq] at h
          simp only [List.length_cons, ← h.2]
          exact Nat.lt_succ_of_le this
        · simp at h
      · split at h
        · split at h
          · simp only [Option.some.injEq, Prod.mk.injEq] at h
            have := Text.length_dropWhile_le isWordChar rest
            simp only [List.length_cons, ← h.2]
            omega
          · simp at h
        · simp at h

variable (text)

/-- Cuts the tokens of JSON text. -/
def lexer : Lexer τ where
  next? s := token? text (s.dropWhile isBlank)
  shorter s _ _ h :=
    Nat.lt_of_lt_of_le (length_token?_lt h) (Text.length_dropWhile_le isBlank s)

/-- Reads a whole text as JSON. -/
def readBy? [DecidableEq τ] (source : String) : Option (Data τ τ) :=
  match Assembly.read (lexer text) source.toList with
  | .ok (value, rest) => if rest.all isBlank then some value else none
  | .error _ => none

end

/-- The value of JSON text, with its texts as they are shown. -/
def read? (source : String) : Option Json := readBy? shownText source

/-- The exact value of JSON text. -/
def decode? (source : String) : Option LooseJson := readBy? looseText source

end ToolBindings.Json
