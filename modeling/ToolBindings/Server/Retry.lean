import ToolBindings.Data.Basic
import ToolBindings.Fault
import ToolBindings.Text.AnyDigit

/-!
# Retry policies

How often a failing operation is tried, and how long the pauses between tries are. The first pause
is the backoff; each further one is twice the one before, but no longer than the cap. A cap of zero
keeps every pause at the backoff. `RetryPolicy.run` is stated over any state and any faults, so that
what it does can be told apart from what it is used for.
-/

namespace ToolBindings

/-- The number of tries, and the pauses between them in milliseconds. -/
structure RetryPolicy where
  attempts : Nat
  backoff : Nat
  cap : Nat
  attempts_pos : 0 < attempts

namespace RetryPolicy

/-- A policy with each value raised to its minimum: one try, and pauses of no length. -/
def ofInts (attempts backoff cap : Int) : RetryPolicy :=
  ⟨max 1 attempts.toNat, backoff.toNat, cap.toNat, by omega⟩

/-- A single try. -/
def once : RetryPolicy := ofInts 1 100 1000

/-- The pause after a pause. -/
def nextPause (policy : RetryPolicy) (pause : Nat) : Nat :=
  if 0 < policy.cap then min (pause * 2) policy.cap else pause

/-- What a run needs to know and to do besides the operation itself: which faults are transient, how
to note a retry, and how to pause. -/
structure Actions (σ ε : Type) where
  isTransient : ε → Bool
  warn : (attempt : Nat) → ε → σ → σ
  pause : (milliseconds : Nat) → σ → σ

/-- Tries an operation with `more` tries left after this one, which is try number `attempt`. -/
def runFrom {σ ε α : Type} (policy : RetryPolicy) (actions : Actions σ ε)
    (operation : σ → Except ε α × σ) :
    (more attempt pause : Nat) → σ → Except ε α × σ
  | more, attempt, pause, s =>
    match operation s with
    | (.ok value, s) => (.ok value, s)
    | (.error fault, s) =>
      match more with
      | 0 => (.error fault, s)
      | more + 1 =>
        if actions.isTransient fault then
          let s := actions.warn attempt fault s
          let s := if 0 < pause then actions.pause pause s else s
          runFrom policy actions operation more (attempt + 1) (policy.nextPause pause) s
        else (.error fault, s)

/-- Tries an operation until it succeeds, fails for good, or has been tried often enough. -/
def run {σ ε α : Type} (policy : RetryPolicy) (actions : Actions σ ε)
    (operation : σ → Except ε α × σ) (s : σ) : Except ε α × σ :=
  runFrom policy actions operation (policy.attempts - 1) 1 policy.backoff s

/-! ## Values of fields -/

/-- The value of a run of decimal digits of any script, underscores between digits allowed. -/
def digitsValue? (acc : Nat) (afterDigit : Bool) : List Char → Option Nat
  | [] => if afterDigit then some acc else none
  | c :: rest =>
    match Text.decimalDigit? c with
    | some d => digitsValue? (10 * acc + d) true rest
    | none => if c = '_' ∧ afterDigit then digitsValue? acc false rest else none

/-- The integer that a text writes, blanks around it allowed. -/
def textValue? (s : List Char) : Option Int :=
  match Text.trimBlanks Text.isSpace s with
  | '-' :: rest => (digitsValue? 0 false rest).map fun n => -(n : Int)
  | '+' :: rest => (digitsValue? 0 false rest).map fun n => (n : Int)
  | rest => (digitsValue? 0 false rest).map fun n => (n : Int)

/-- The integer that a value stands for: numbers lose their fraction, truth values count as one and
zero, texts are read. -/
def fieldValue : Json → Except Crash Int
  | .int i => .ok i
  | .bool b => .ok b.toNat
  | .float x =>
    match x.truncate? with
    | some i => .ok i
    | none => .error (if x = .nan then .wrongValue else .tooLarge)
  | .text s =>
    match textValue? s.toList with
    | some i => .ok i
    | none => .error .wrongValue
  | _ => .error .wrongType

/-- The value of a field, or its default if it is not given. -/
def field (fields : Entries String Json) (key : String) (default : Int) : Except Crash Int :=
  match Entries.get? key fields with
  | none => .ok default
  | some value => fieldValue value

/-- The names of the fields of a policy. -/
def fieldNames : List String := ["attempts", "backoff_ms", "max_backoff_ms"]

/-- The policy that fields describe. -/
def ofFields (fields : Entries String Json) : Except Crash RetryPolicy := do
  if fields.any fun (key, _) => !fieldNames.contains key then throw .wrongType
  let attempts ← field fields "attempts" 1
  let backoff ← field fields "backoff_ms" 100
  let cap ← field fields "max_backoff_ms" 1000
  return ofInts attempts backoff cap

end RetryPolicy
end ToolBindings
