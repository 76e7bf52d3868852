import ToolBindings.Data.Basic
import ToolBindings.Decimal.Layout
import ToolBindings.Literal.Quoted

/-!
# Literals

The text of data as a literal of the generated source: `None`, `True`, `False`, numbers, quoted
texts, `[a, b]` and `\x7b'k': v}`. A number that is not finite has no literal; it is written as a
bare name.
-/

namespace ToolBindings.Literal

/-- The names of numbers without digits. -/
def layout : Layout := ⟨"inf".toList, "nan".toList⟩

mutual

/-- The literal of a value. -/
def print : Json → List Char
  | .null => "None".toList
  | .bool true => "True".toList
  | .bool false => "False".toList
  | .int i => Text.decimalInt i
  | .float x => layout.write x
  | .text s => quoted s
  | .list [] => ['[', ']']
  | .list (item :: rest) => '[' :: print item ++ printItems rest ++ [']']
  | .map [] => ['\x7b', '\x7d']
  | .map ((key, value) :: rest) =>
    '\x7b' :: quoted key ++ ':' :: ' ' :: print value ++ printFields rest ++ ['\x7d']

/-- The items after the first, each after a comma. -/
def printItems : List Json → List Char
  | [] => []
  | item :: rest => ',' :: ' ' :: print item ++ printItems rest

/-- The fields after the first, each after a comma. -/
def printFields : List (String × Json) → List Char
  | [] => []
  | (key, value) :: rest =>
    ',' :: ' ' :: quoted key ++ ':' :: ' ' :: print value ++ printFields rest

end

/-- The text of a value where a message shows it: a text as it is, anything else as its literal. -/
def display : Json → String
  | .text s => s
  | value => String.ofList (print value)

end ToolBindings.Literal
