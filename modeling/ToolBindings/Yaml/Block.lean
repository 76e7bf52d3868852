import ToolBindings.Yaml.Flow

/-!
# YAML text

Block lists and maps by indentation, with plain, quoted and flow values. `Yaml.read?` reads a text
with at most one document; a text without any value reads as null. Anchors, tags, block scalars and
explicit keys are not part of the form that is read.
-/

namespace ToolBindings.Yaml

/-- A line: the blanks at its front, and the text after them. -/
structure Line where
  indent : Nat
  text : List Char

namespace Line

/-- The line of a text. -/
def ofText (s : List Char) : Line := ⟨(s.takeWhile (· == ' ')).length, s.dropWhile (· == ' ')⟩

/-- The lines of a text. -/
def ofTexts (s : List Char) : List Line := (Text.splitOn '\n' s).map ofText

/-- The text of lines. -/
def toText (lines : List Line) : List Char :=
  lines.flatMap fun l => '\n' :: List.replicate l.indent ' ' ++ l.text

/-- Nothing but blanks. -/
def isBlank (l : Line) : Bool := l.text.all isSpace

/-- Nothing, or a comment. -/
def isSkipped (l : Line) : Bool := l.isBlank || l.text.head? == some '#'

/-- An element of a list starts here. -/
def isElement (s : List Char) : Bool :=
  match s with
  | ['-'] => true
  | '-' :: c :: _ => isGap c
  | _ => false

/-- The line that separates documents, or ends one. -/
def isMarker (word : String) (l : Line) : Bool :=
  l.indent == 0 &&
    match Text.dropText? word.toList l.text with
    | some [] => true
    | some (c :: _) => isGap c
    | none => false

end Line

/-- Only blanks or a comment are left of a line. -/
def endsLine (s : List Char) : Bool := (skipSpace false s).isEmpty

/-- The part of a plain scalar on one line, and what follows it there: nothing, the colon after a
key, a comment, or a tab, which nothing can follow. -/
def plainPiece (blanks : List Char) : List Char → List Char × List Char
  | [] => ([], [])
  | c :: rest =>
    if isSpace c then plainPiece (blanks ++ [c]) rest
    else if c = '\t' ∨ endsKey false (c :: rest) then ([], c :: rest)
    else if c = '#' ∧ blanks ≠ [] then ([], c :: rest)
    else
      let (cs, after) := plainPiece [] rest
      (blanks ++ c :: cs, after)

/-- The further lines of a plain scalar, indented by `least` or more, after `lineEnds` empty ones.
-/
def plainLines (least lineEnds : Nat) : List Line → Option (List Char × List Line)
  | [] => some ([], [])
  | l :: rest =>
    if l.isBlank then plainLines least (lineEnds + 1) rest
    else if l.indent < least ∨ l.text.head? = some '#' then some ([], l :: rest)
    else
      let joint := if lineEnds = 0 then [' '] else List.replicate lineEnds '\n'
      match plainPiece [] l.text with
      | (piece, []) =>
        (plainLines least 0 rest).map fun (cs, after) => (joint ++ piece ++ cs, after)
      | (piece, '#' :: _) => some (joint ++ piece, rest)
      | _ => none

/-- The key that starts a line, and what follows its colon. -/
def key? (s : List Char) : Option (ConfigKey × List Char) :=
  match s with
  | '\'' :: _ | '"' :: _ =>
    match quoted? s with
    | some (cs, after) =>
      match after.dropWhile (· == ' ') with
      | ':' :: rest =>
        if endsKey false (':' :: rest) then some (.text (String.ofList cs), rest) else none
      | _ => none
    | none => none
  | _ =>
    if startsPlain false s then
      match plainPiece [] s with
      | (piece, ':' :: rest) => (ConfigKey.ofValue? (plainValue piece)).map fun key => (key, rest)
      | _ => none
    else none

/-- A value that starts within a line, and the lines after it. Its further lines are indented by
`least` or more. -/
def inlineValue? (least : Nat) (s : List Char) (rest : List Line) :
    Option (ConfigValue × List Line) :=
  let stream := s ++ Line.toText rest
  let spanning : Option (ConfigValue × List Char) :=
    match s with
    | '[' :: _ | '\x7b' :: _ => flowValue? (stream.length + 1) stream
    | _ => (quoted? stream).map fun (cs, after) => (.text (String.ofList cs), after)
  match s with
  | '[' :: _ | '\x7b' :: _ | '\'' :: _ | '"' :: _ =>
    match spanning with
    | none => none
    | some (value, after) =>
      match Line.ofTexts after with
      | [] => some (value, [])
      | l :: lines =>
        if endsLine (List.replicate l.indent ' ' ++ l.text) then some (value, lines) else none
  | _ =>
    if startsPlain false s then
      match plainPiece [] s with
      | (piece, []) =>
        (plainLines least 0 rest).map fun (cs, lines) => (plainValue (piece ++ cs), lines)
      | (piece, '#' :: _) => some (plainValue piece, rest)
      | _ => none
    else none

mutual

/-- The value that starts on the next line, if that is indented by `least` or more, and null
otherwise. The number of characters bounds the nesting. -/
def blockValue? : (bound least : Nat) → List Line → Option (ConfigValue × List Line)
  | 0, _, _ => none
  | bound + 1, least, lines =>
    match lines.dropWhile Line.isSkipped with
    | [] => some (.null, [])
    | l :: rest =>
      if l.indent < least then some (.null, l :: rest)
      else if Line.isElement l.text then blockList? bound l.indent [] (l :: rest)
      else if (key? l.text).isSome then blockMap? bound l.indent [] (l :: rest)
      else inlineValue? least l.text rest

/-- The elements of a list whose lines are indented by `indent`. -/
def blockList? : (bound indent : Nat) → (done : List ConfigValue) → List Line →
    Option (ConfigValue × List Line)
  | 0, _, _, _ => none
  | bound + 1, indent, done, lines =>
    match lines.dropWhile Line.isSkipped with
    | [] => some (.list done.reverse, [])
    | l :: rest =>
      if l.indent = indent ∧ Line.isElement l.text then
        let body := Line.ofText (l.text.drop 1)
        let next : Line := ⟨indent + 1 + body.indent, body.text⟩
        match blockValue? bound (indent + 1) (if next.isSkipped then rest else next :: rest) with
        | some (value, after) => blockList? bound indent (value :: done) after
        | none => none
      else if indent < l.indent then none
      else some (.list done.reverse, l :: rest)

/-- The entries of a map whose lines are indented by `indent`. -/
def blockMap? : (bound indent : Nat) → (done : ConfigFields) → List Line →
    Option (ConfigValue × List Line)
  | 0, _, _, _ => none
  | bound + 1, indent, done, lines =>
    match lines.dropWhile Line.isSkipped with
    | [] => some (.map done, [])
    | l :: rest =>
      if l.indent < indent then some (.map done, l :: rest)
      else if indent < l.indent then none
      else
        match key? l.text with
        | none => none
        | some (key, after) =>
          match blockEntry? bound indent after rest with
          | some (value, lines) => blockMap? bound indent (Entries.put key value done) lines
          | none => none

/-- The value after a key and its colon. A list may stand as far left as its key. -/
def blockEntry? : (bound indent : Nat) → List Char → List Line → Option (ConfigValue × List Line)
  | 0, _, _, _ => none
  | bound + 1, indent, after, rest =>
    if endsLine after then
      match rest.dropWhile Line.isSkipped with
      | [] => some (.null, [])
      | l :: lines =>
        if l.indent = indent ∧ Line.isElement l.text then blockList? bound indent [] (l :: lines)
        else blockValue? bound (indent + 1) (l :: lines)
    else
      let text := after.dropWhile isSpace
      if Line.isElement text ∨ (key? text).isSome then none
      else inlineValue? (indent + 1) text rest

end

/-- Line ends of every kind as one kind. -/
def unifyLineEnds : List Char → List Char
  | [] => []
  | '\r' :: '\n' :: rest => '\n' :: unifyLineEnds rest
  | c :: rest => (if c = '\r' ∨ c = Char.ofNat 0x85 then '\n' else c) :: unifyLineEnds rest

/-- A character that may stand in YAML text. -/
def isAllowed (c : Char) : Bool :=
  let n := c.toNat
  c == '\t' || c == '\n' || c == '\r' || (0x20 ≤ n && n ≤ 0x7E) || n == 0x85 ||
    (0xA0 ≤ n && n ≤ 0xFFFD) || 0x10000 ≤ n

/-- The lines of a document without the mark that starts it. Lists and maps in block form cannot
stand on the line of the mark. -/
def dropStart? (lines : List Line) : Option (List Line) :=
  match lines.dropWhile Line.isSkipped with
  | [] => some []
  | l :: rest =>
    if l.isMarker "---" then
      let l := Line.ofText (l.text.drop 3)
      if Line.isElement l.text ∨ (key? l.text).isSome then none else some (l :: rest)
    else some (l :: rest)

/-- The lines of the only document: after a line that starts one, before a line that ends one. A
second document is none. -/
def document? (lines : List Line) : Option (List Line) := do
  let lines ← dropStart? lines
  let body := lines.takeWhile fun l => !l.isMarker "---" && !l.isMarker "..."
  let after := lines.dropWhile fun l => !l.isMarker "---" && !l.isMarker "..."
  match after with
  | [] => some body
  | l :: rest => if l.isMarker "..." ∧ rest.all Line.isSkipped then some body else none

/-- The value of a text. -/
def read? (text : String) : Option ConfigValue :=
  let s := text.toList
  if !s.all isAllowed then none
  else
    let s := if s.head? = some '\ufeff' then s.drop 1 else s
    match document? (Line.ofTexts (unifyLineEnds s)) with
    | none => none
    | some lines =>
      match blockValue? (2 * s.length + 4) 0 lines with
      | some (value, rest) => if rest.all Line.isSkipped then some value else none
      | none => none

end ToolBindings.Yaml
