import ToolBindings.Command.Notice
import ToolBindings.Console.Markup
import ToolBindings.Console.Wrap

/-!
# Console output

How notices come to the console: the words escaped, in a colour that goes with the tone. Colours are
written as tags and do not show in the text.
-/

namespace ToolBindings.Console

/-- A console: how many columns it has, if it breaks lines at all. -/
structure Width where
  columns : Option Nat

namespace Width

/-- Lines are as long as they are. -/
def unbounded : Width := ⟨none⟩

/-- The width of a console that does not know its own. -/
def standard : Width := ⟨some 80⟩

/-- A text as a console of this width lays it out. -/
def layOut (width : Width) (s : List Char) : List Char :=
  match width.columns with
  | none => expandTabs s
  | some columns => wrap columns (expandTabs s)

end Width

/-- The colour of a tone. -/
def colour? : Tone → Option String
  | .plain => none
  | .good => some "green"
  | .caution => some "yellow"
  | .bad => some "red"

/-- A text between tags for a colour. -/
def coloured (colour : String) (s : List Char) : List Char :=
  '[' :: colour.toList ++ ']' :: s ++ '[' :: '/' :: colour.toList ++ [']']

/-! ## Printing -/

/-- A console that takes markup: what it prints of a line, the line end included, and how a text is
escaped so that none of it is taken as markup. -/
structure Printer where
  print : List Char → Except Crash (List Char)
  escape : List Char → List Char

namespace Printer

/-- The console of the program, at a width. -/
def ofWidth (width : Width) : Printer where
  print s := (Markup.render s).map fun shown => width.layOut shown ++ ['\n']
  escape := Markup.escape

/-- Prints a text as it is, in a colour. -/
def printEscaped (p : Printer) (colour : String) (s : List Char) : Except Crash (List Char) :=
  p.print (coloured colour (p.escape s))

/-- The line for a notice. -/
def line (p : Printer) (notice : Notice) : Except Crash (List Char) :=
  match colour? notice.tone with
  | none => p.print (p.escape notice.text.toList)
  | some colour => p.printEscaped colour notice.text.toList

/-- What the console shows of notices. -/
def text (p : Printer) (notices : List Notice) : Except Crash String :=
  (notices.mapM p.line).map fun lines => String.ofList lines.flatten

/-- The line for a message that keeps a command from starting. The message is taken as markup. -/
def errorLine (p : Printer) (message : String) : Except Crash String :=
  (p.print (coloured "red" ("Error: " ++ message).toList)).map String.ofList

end Printer
end ToolBindings.Console
