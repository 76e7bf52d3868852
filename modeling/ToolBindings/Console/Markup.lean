import ToolBindings.Console.Emoji
import ToolBindings.Console.Style
import ToolBindings.Fault

/-!
# Console markup

Text with tags in square brackets, as the console shows it: tags disappear, a closing tag has to
match an open one, and a backslash before a tag makes it plain text. `escape` writes a text so that
it is shown as it is.
-/

namespace ToolBindings.Console.Markup

/-! ## Tags -/

/-- A character that the inside of a tag starts with. -/
def startsTag (c : Char) : Bool := ('a' ≤ c && c ≤ 'z') || c == '#' || c == '/' || c == '@'

/-- The inside of the tag whose bracket was just opened, and what follows the tag. -/
def tag? : List Char → Option (List Char × List Char)
  | [] => none
  | c :: rest =>
    if startsTag c then
      match rest.dropWhile fun c => c ≠ ']' && c ≠ '[' with
      | ']' :: after => some (c :: rest.takeWhile (fun c => c ≠ ']' && c ≠ '['), after)
      | _ => none
    else none

/-- The tag at the front of a text after backslashes: their number, its inside, and what follows. -/
def front? : List Char → Option (Nat × List Char × List Char)
  | '\\' :: rest => (front? rest).map fun (backslashes, tag, after) => (backslashes + 1, tag, after)
  | '[' :: rest => (tag? rest).map fun (tag, after) => (0, tag, after)
  | _ => none

theorem length_tag?_lt {s tag after : List Char} (h : tag? s = some (tag, after)) :
    after.length < s.length := by
  unfold tag? at h
  split at h
  · simp at h
  · rename_i c rest
    have hle := Text.length_dropWhile_le (fun c => c ≠ ']' && c ≠ '[') rest
    split at h
    · split at h
      · rename_i after' ha
        rw [ha] at hle
        simp only [Option.some.injEq, Prod.mk.injEq] at h
        rw [← h.2]
        simp only [List.length_cons] at hle ⊢
        omega
      · simp at h
    · simp at h

/-- A tag at the front uses up at least one character. -/
theorem length_front?_lt {s tag after : List Char} {n : Nat} (h : front? s = some (n, tag, after)) :
    after.length < s.length := by
  fun_induction front? s generalizing n tag after with
  | case1 rest ih =>
    obtain ⟨⟨n', tag', after'⟩, hf, he⟩ := Option.map_eq_some_iff.1 h
    simp only [Prod.mk.injEq] at he
    have := ih hf
    rw [← he.2.2]
    simp only [List.length_cons]
    omega
  | case2 rest =>
    obtain ⟨⟨tag', after'⟩, hf, he⟩ := Option.map_eq_some_iff.1 h
    simp only [Prod.mk.injEq] at he
    have := length_tag?_lt hf
    rw [← he.2.2]
    simp only [List.length_cons]
    omega
  | case3 => simp at h

/-! ## Escaping -/

/-- Tags made plain text: the backslashes before each are doubled and one is added. -/
def escapeTags (s : List Char) : List Char :=
  match _h : front? s with
  | some (backslashes, tag, after) =>
    List.replicate (2 * backslashes + 1) '\\' ++ '[' :: tag ++ ']' :: escapeTags after
  | none =>
    match s with
    | [] => []
    | c :: rest => c :: escapeTags rest
termination_by s.length
decreasing_by
  · exact length_front?_lt ‹_›
  · simp

/-- A text that ends in exactly one backslash gets a second one. -/
def closeBackslash (s : List Char) : List Char :=
  match s.reverse with
  | '\\' :: '\\' :: _ => s
  | '\\' :: _ => s ++ ['\\']
  | _ => s

/-- A text written so that it is shown as it is. -/
def escape (s : List Char) : List Char := closeBackslash (escapeTags s)

/-! ## Showing -/

/-- Pieces of a text with markup. -/
inductive Piece where
  | text (s : List Char)
  | tag (inside : List Char)

/-- Puts a character in front of pieces. -/
def consChar (c : Char) : List Piece → List Piece
  | .text s :: rest => .text (c :: s) :: rest
  | pieces => .text [c] :: pieces

/-- The pieces that a tag after backslashes makes. Two backslashes show one; one that is left over
makes the tag text. -/
def tagPieces (backslashes : Nat) (tag : List Char) : List Piece :=
  let shown := if backslashes < 2 then [] else [.text (List.replicate (backslashes / 2) '\\')]
  shown ++ if backslashes % 2 = 0 then [.tag tag] else [.text ('[' :: tag ++ [']'])]

/-- The pieces of a text. Before each tag stands a text, if only an empty one, so that the
characters before a tag do not join the text that the tag makes. -/
def pieces (s : List Char) : List Piece :=
  match _h : front? s with
  | some (backslashes, tag, after) =>
    .text [] :: tagPieces backslashes tag ++ pieces after
  | none =>
    match s with
    | [] => []
    | c :: rest => consChar c (pieces rest)
termination_by s.length
decreasing_by
  · exact length_front?_lt ‹_›
  · simp

/-- Plain text as it is shown: a backslash before an open bracket is left out. -/
def dropBackslashes : List Char → List Char
  | '\\' :: '[' :: rest => '[' :: dropBackslashes rest
  | c :: rest => c :: dropBackslashes rest
  | [] => []

/-- A control character that the console leaves out. -/
def isDropped (c : Char) : Bool := [7, 8, 11, 12, 13].contains c.toNat

/-- Plain text as it is shown. -/
def shown (s : List Char) : List Char :=
  (Emoji.replace (dropBackslashes s)).filter fun c => !isDropped c

/-- The style that a tag names: its inside up to an equals sign. -/
def tagName (inside : List Char) : List Char := inside.takeWhile (· ≠ '=')

/-- Closes the style that was opened last among those of a name, or the last of all if the name is
blank. -/
def closeStyle? (name : List Char) (styles : List String) : Option (List String) :=
  if Text.trimBlanks Text.isSpace name = [] then
    match styles with
    | [] => none
    | _ :: rest => some rest
  else if styles.contains (Style.normal name) then some (styles.erase (Style.normal name)) else none

/-- What pieces show under open styles. -/
def showPieces : (styles : List String) → List Piece → Except Crash (List Char)
  | _, [] => .ok []
  | styles, .text s :: rest => (showPieces styles rest).map (shown s ++ ·)
  | styles, .tag inside :: rest =>
    match tagName inside with
    | '/' :: name =>
      match closeStyle? name styles with
      | some styles => showPieces styles rest
      | none => .error .markup
    | name => showPieces (Style.normal name :: styles) rest

/-- What a text with markup shows. -/
def render (s : List Char) : Except Crash (List Char) := showPieces [] (pieces s)

end ToolBindings.Console.Markup
