import ToolBindings.Data.Basic

/-!
# Assembly of data from tokens

Written data is a stream of tokens: marks, scalars and names. `Lexer.run` feeds the tokens of a text
to a step function. `Assembly.step` is the one that puts data together; `Assembly.read` runs it over
a text and returns the value with the text after it. Both the JSON form and the literal
form of data are read this way.
-/

namespace ToolBindings

/-- A piece of written data, with texts of type `τ`. -/
inductive Token (τ : Type := String) where
  /-- A bracket, brace, comma, colon or other single mark. -/
  | mark (c : Char)
  /-- A word that stands for no value by itself. -/
  | name (word : String)
  /-- Null, a truth value, a number or a text. -/
  | scalar (value : Data τ τ)

/-- Cuts the first token off a text. What is left is shorter, so reading ends. -/
structure Lexer (τ : Type := String) where
  next? : List Char → Option (Token τ × List Char)
  shorter : ∀ s t r, next? s = some (t, r) → r.length < s.length

/-- Why a text is no data. -/
inductive ReadFault where
  | malformed
  /-- A name stands where a value should, and nothing is bound to it. -/
  | unbound (name : String)
deriving DecidableEq

/-- The outcome of one token for a reader with standings `σ` and results `α`. -/
inductive Outcome (σ α : Type) where
  | more (next : σ)
  | finished (value : α)
  | fault (reason : ReadFault)

namespace Lexer

/-- Feeds tokens to `step` until it finishes: the result and the text after it. -/
def run {τ σ α : Type} (lexer : Lexer τ) (step : σ → Token τ → Outcome σ α) (standing : σ)
    (s : List Char) : Except ReadFault (α × List Char) :=
  match _h : lexer.next? s with
  | none => .error .malformed
  | some (token, rest) =>
    match step standing token with
    | .more next => lexer.run step next rest
    | .finished value => .ok (value, rest)
    | .fault reason => .error reason
termination_by s.length
decreasing_by exact lexer.shorter _ _ _ ‹_›

end Lexer

/-- A container with a value still to come: the items so far, latest first, or the fields so far and
the key of the value. -/
inductive Frame (τ : Type := String) where
  | list (done : List (Data τ τ))
  | entry (done : List (τ × Data τ τ)) (key : τ)

/-- A container between two of its elements. -/
inductive OpenContainer (τ : Type := String) where
  | list (done : List (Data τ τ))
  | map (done : List (τ × Data τ τ))

/-- Where the assembly of a value stands: the containers around, innermost first, and what may come
next. -/
inductive Assembly (τ : Type := String) where
  /-- A value must come. -/
  | beforeValue (around : List (Frame τ))
  /-- A list was opened: its end or a value comes. -/
  | openedList (around : List (Frame τ))
  /-- A map was opened: its end or a key comes. -/
  | openedMap (around : List (Frame τ))
  /-- A key must come. -/
  | beforeKey (done : List (τ × Data τ τ)) (around : List (Frame τ))
  /-- A colon must come. -/
  | beforeColon (done : List (τ × Data τ τ)) (key : τ) (around : List (Frame τ))
  /-- A comma or the end of the container must come. -/
  | afterElement (container : OpenContainer τ) (around : List (Frame τ))

namespace Assembly

variable {τ : Type}

/-- A value is complete: it goes into the container around it, if there is one. -/
def complete (value : Data τ τ) : List (Frame τ) → Outcome (Assembly τ) (Data τ τ)
  | [] => .finished value
  | .list done :: around => .more (.afterElement (.list (value :: done)) around)
  | .entry done key :: around => .more (.afterElement (.map ((key, value) :: done)) around)

/-- A token where a value starts. -/
def start (around : List (Frame τ)) : Token τ → Outcome (Assembly τ) (Data τ τ)
  | .scalar value => complete value around
  | .mark '[' => .more (.openedList around)
  | .mark '\x7b' => .more (.openedMap around)
  | .name word => .fault (.unbound word)
  | .mark _ => .fault .malformed

/-- One token. -/
def step [DecidableEq τ] : Assembly τ → Token τ → Outcome (Assembly τ) (Data τ τ)
  | .beforeValue around, t => start around t
  | .openedList around, .mark ']' => complete (.list []) around
  | .openedList around, t => start (.list [] :: around) t
  | .openedMap around, .mark '\x7d' => complete (.map []) around
  | .openedMap around, .scalar (.text key) => .more (.beforeColon [] key around)
  | .beforeKey done around, .scalar (.text key) => .more (.beforeColon done key around)
  | .beforeColon done key around, .mark ':' => .more (.beforeValue (.entry done key :: around))
  | .afterElement (.list done) around, .mark ',' => .more (.beforeValue (.list done :: around))
  | .afterElement (.list done) around, .mark ']' => complete (.list done.reverse) around
  | .afterElement (.map done) around, .mark ',' => .more (.beforeKey done around)
  | .afterElement (.map done) around, .mark '\x7d' =>
    complete (.map (Entries.ofList done.reverse)) around
  | _, _ => .fault .malformed

/-- Reads one value off the front of a text. -/
def read [DecidableEq τ] (lexer : Lexer τ) (s : List Char) :
    Except ReadFault (Data τ τ × List Char) :=
  lexer.run step (.beforeValue []) s

end Assembly
end ToolBindings
