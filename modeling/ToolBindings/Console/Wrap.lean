import ToolBindings.Text.AnyDigit
import ToolBindings.Text.Columns
import ToolBindings.Text.Scan

/-!
# Line breaks

Tabs and line breaks on a console of a given width. Lines break between words; a word that is wider
than the console is cut.
-/

namespace ToolBindings.Console

/-- A line with each tab replaced by blanks up to the next stop; `column` characters stand before
it. -/
def expandTabsFrom (column : Nat) : List Char → List Char
  | [] => []
  | c :: rest =>
    if c = '\t' then
      let blanks := 8 - column % 8
      List.replicate blanks ' ' ++ expandTabsFrom (column + blanks) rest
    else c :: expandTabsFrom (if c = '\n' then 0 else column + Text.charColumns c) rest

/-- A text with tabs replaced by blanks, stops standing every eight columns. -/
def expandTabs (s : List Char) : List Char := expandTabsFrom 0 s

/-- Words, each with the blanks after it; blanks at the front go with the first word. -/
def wordsFrom (current : List Char) (inBlanks : Bool) : List Char → List (List Char)
  | [] => if current.any (!Text.isSpace ·) then [current.reverse] else []
  | c :: rest =>
    if inBlanks ∧ !Text.isSpace c ∧ current.any (!Text.isSpace ·) then
      current.reverse :: wordsFrom [c] false rest
    else wordsFrom (c :: current) (Text.isSpace c) rest

/-- A text without the blanks at its end. -/
def dropBlanksAtEnd (s : List Char) : List Char :=
  (s.reverse.dropWhile Text.isSpace).reverse

/-- Pieces of a text that fit; `piece` is the one before it, latest first, and takes `used` columns.
-/
def cutFrom (width : Nat) (piece : List Char) (used : Nat) : List Char → List (List Char)
  | [] => [piece.reverse]
  | c :: rest =>
    let columns := Text.charColumns c
    if width < used + columns then piece.reverse :: cutFrom width [c] columns rest
    else cutFrom width (c :: piece) (used + columns) rest

/-- Pieces of a text that fit, each as long as it can be. -/
def cut (width : Nat) (s : List Char) : List (List Char) := cutFrom width [] 0 s

/-- Puts words on lines; `line` is the line so far. -/
def fill (width : Nat) (line : List Char) : List (List Char) → List (List Char)
  | [] => [line]
  | word :: rest =>
    let wordColumns := Text.columns (dropBlanksAtEnd word)
    if Text.columns line + wordColumns ≤ width then fill width (line ++ word) rest
    else if width < wordColumns then
      let pieces := cut width word
      let before := if line.isEmpty then [] else [line]
      before ++ pieces.dropLast ++ fill width (pieces.getLast?.getD []) rest
    else line :: fill width word rest

/-- The front of a text that takes no more than `columns` columns, up to the first character with
which it takes them all. -/
def takeColumns : (columns : Nat) → List Char → List Char
  | _, [] => []
  | columns, c :: rest =>
    let own := Text.charColumns c
    if columns < own then List.replicate columns ' '
    else if columns = own then [c]
    else c :: takeColumns (columns - own) rest

/-- A line without the blanks at its end that are beyond the width. -/
def cropBlanks (width : Nat) (line : List Char) : List Char :=
  let line := line.take (max width (dropBlanksAtEnd line).length)
  if width < Text.columns line then takeColumns width line else line

/-- A line broken into lines that fit. -/
def wrapLine (width : Nat) (s : List Char) : List (List Char) :=
  match wordsFrom [] false s with
  | [] => [cropBlanks width s]
  | words => (fill width [] words).map (cropBlanks width)

/-- A text broken into lines that fit. -/
def wrap (width : Nat) (s : List Char) : List Char :=
  ['\n'].intercalate ((Text.splitOn '\n' s).flatMap (wrapLine width))

end ToolBindings.Console
