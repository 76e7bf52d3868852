import ToolBindings.Yaml.Quoted
import ToolBindings.Yaml.Scalar

/-!
# Flow collections of YAML text

Lists and maps in brackets and braces. Inside them line ends are blanks, and a plain scalar ends at
a bracket, brace, comma, or at a colon before a blank or one of those.
-/

namespace ToolBindings.Yaml

/-- A blank or a line end, which may stand between the parts of a text. -/
def isSpace (c : Char) : Bool := c == ' ' || c == '\n'

/-- A blank, a tab or a line end, which ends a mark or a scalar. A tab cannot be skipped, so that it
may stand only in quotes and in comments. -/
def isGap (c : Char) : Bool := isSpace c || c == '\t'

/-- A mark that ends a plain scalar inside a flow collection. -/
def isFlowMark (c : Char) : Bool :=
  c == ',' || c == '[' || c == ']' || c == '\x7b' || c == '\x7d'

/-- A character that no plain scalar starts with. -/
def isIndicator (c : Char) : Bool := "-?:,[]\x7b\x7d#&*!|>'\"%@`".toList.contains c

/-- A plain scalar can start here. -/
def startsPlain (inFlow : Bool) : List Char → Bool
  | [] => false
  | c :: rest =>
    if isGap c then false
    else if !isIndicator c then true
    else
      let alone := match rest with
        | [] => true
        | d :: _ => isGap d
      !alone && (c == '-' || (!inFlow && (c == '?' || c == ':')))

/-- The text after blanks, line ends and comments. -/
def skipSpace (inComment : Bool) : List Char → List Char
  | [] => []
  | c :: rest =>
    if inComment then skipSpace (c ≠ '\n') rest
    else if isSpace c then skipSpace false rest
    else if c = '#' then skipSpace true rest
    else c :: rest

/-- The colon that starts a text separates a key from a value. -/
def endsKey (inFlow : Bool) : List Char → Bool
  | ':' :: [] => true
  | ':' :: c :: _ => isGap c || (inFlow && isFlowMark c)
  | _ => false

/-- A plain scalar inside a flow collection and what follows it; blanks and line ends before the
next character wait in `blanks` and `lineEnds`. -/
def flowPlain (blanks : List Char) (lineEnds : Nat) : List Char → List Char × List Char
  | [] => ([], [])
  | c :: rest =>
    if c = '\n' then flowPlain [] (lineEnds + 1) rest
    else if isSpace c then
      if lineEnds = 0 then flowPlain (blanks ++ [c]) 0 rest else flowPlain [] lineEnds rest
    else if isFlowMark c || c == '?' || c == '\t' || endsKey true (c :: rest) then ([], c :: rest)
    else if c = '#' ∧ (blanks ≠ [] ∨ lineEnds ≠ 0) then ([], c :: rest)
    else
      let (cs, after) := flowPlain [] 0 rest
      (folded blanks lineEnds ++ c :: cs, after)

/-- What a flow reader has in hand between two elements: a list, or the fields of a map. -/
inductive FlowOpen where
  | list (done : List ConfigValue)
  | map (done : ConfigFields)

mutual

/-- A value inside a flow collection, and what follows it. The number of characters bounds the
nesting. -/
def flowValue? : (bound : Nat) → List Char → Option (ConfigValue × List Char)
  | 0, _ => none
  | bound + 1, s =>
    match s with
    | '[' :: rest => flowList? bound [] (skipSpace false rest)
    | '\x7b' :: rest => flowMap? bound [] (skipSpace false rest)
    | _ =>
      match quoted? s with
      | some (cs, after) => some (.text (String.ofList cs), after)
      | none =>
        if startsPlain true s then
          let (cs, after) := flowPlain [] 0 s
          some (plainValue cs, after)
        else none

/-- The rest of a flow list. An element may be a single pair of key and value. -/
def flowList? : (bound : Nat) → (done : List ConfigValue) → List Char →
    Option (ConfigValue × List Char)
  | 0, _, _ => none
  | _ + 1, done, ']' :: rest => some (.list done.reverse, rest)
  | bound + 1, done, s =>
    match flowValue? bound s with
    | none => none
    | some (value, rest) =>
      match skipSpace false rest with
      | ']' :: rest => some (.list (value :: done).reverse, rest)
      | ',' :: rest => flowList? bound (value :: done) (skipSpace false rest)
      | ':' :: rest =>
        match ConfigKey.ofValue? value, flowAfterKey? bound (skipSpace false rest) with
        | some key, some (value, rest) =>
          let pair := Data.map [(key, value)]
          match rest with
          | ']' :: rest => some (.list (pair :: done).reverse, rest)
          | ',' :: rest => flowList? bound (pair :: done) (skipSpace false rest)
          | _ => none
        | _, _ => none
      | _ => none

/-- The rest of a flow map. -/
def flowMap? : (bound : Nat) → (done : ConfigFields) → List Char →
    Option (ConfigValue × List Char)
  | 0, _, _ => none
  | _ + 1, done, '\x7d' :: rest => some (.map done, rest)
  | bound + 1, done, s =>
    match flowValue? bound s with
    | none => none
    | some (key, rest) =>
      match ConfigKey.ofValue? key with
      | none => none
      | some key =>
        match skipSpace false rest with
        | '\x7d' :: rest => some (.map (Entries.put key .null done), rest)
        | ',' :: rest => flowMap? bound (Entries.put key .null done) (skipSpace false rest)
        | ':' :: rest =>
          match flowAfterKey? bound (skipSpace false rest) with
          | some (value, '\x7d' :: rest) => some (.map (Entries.put key value done), rest)
          | some (value, ',' :: rest) =>
            flowMap? bound (Entries.put key value done) (skipSpace false rest)
          | _ => none
        | _ => none

/-- The value after a key and its colon, null if there is none, and the mark that follows it. -/
def flowAfterKey? : (bound : Nat) → List Char → Option (ConfigValue × List Char)
  | 0, _ => none
  | bound + 1, s =>
    match s with
    | ',' :: _ | ']' :: _ | '\x7d' :: _ => some (.null, s)
    | _ => (flowValue? bound s).map fun (value, rest) => (value, skipSpace false rest)

end

end ToolBindings.Yaml
