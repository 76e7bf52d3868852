import ToolBindings.Digest.Md5
import ToolBindings.Text.AnyDigit
import ToolBindings.Text.Utf8

/-!
# Names of generated classes and packages

A slug or tool name becomes a class name by joining its words, runs of ASCII letters and digits,
each with a capital first letter. A name that could not be used as an identifier gets `Mcp` in
front.
-/

namespace ToolBindings.Name

/-- A letter or digit of ASCII. -/
def isWordChar (c : Char) : Bool := c.isAlphanum

/-- The runs of ASCII letters and digits in a text. -/
def words : List Char → List (List Char)
  | [] => []
  | c :: rest =>
    if isWordChar c then
      match rest, words rest with
      | d :: _, word :: more => if isWordChar d then (c :: word) :: more else [c] :: word :: more
      | _, more => [c] :: more
    else words rest

/-- A word with a capital first letter. -/
def capitalized : List Char → List Char
  | [] => []
  | c :: rest => c.toUpper :: rest

/-- The words of a text in one capitalised run, or `Mcp` if it has none: `crm-api` becomes
`CrmApi`. -/
def studly (value : String) : String :=
  match (words value.toList).flatMap capitalized with
  | [] => "Mcp"
  | run => String.ofList run

/-- The words that the generated source keeps for itself. -/
def keywords : List String := [
  "False", "None", "True", "and", "as", "assert", "async", "await", "break", "class", "continue",
  "def", "del", "elif", "else", "except", "finally", "for", "from", "global", "if", "import", "in",
  "is", "lambda", "nonlocal", "not", "or", "pass", "raise", "return", "try", "while", "with",
  "yield"]

/-- The text starts with a digit of some script. -/
def startsWithDigit (value : String) : Bool :=
  match value.toList with
  | [] => false
  | c :: _ => Text.isAnyDigit c

/-- The text itself, or with `Mcp` in front if it starts with a digit or is a keyword. -/
def identifier (value : String) : String :=
  if startsWithDigit value || keywords.contains value then "Mcp" ++ value else value

/-- The package that holds a server's generated modules. -/
def package (server : String) : String := identifier (studly server)

/-- Eight hexadecimal digits that mark a text. -/
def mark (value : String) : String :=
  String.ofList ((Md5.hex (Text.Utf8.encode value)).take 8)

/-- The class name of a tool before collisions are resolved. -/
def toolBase (server tool : String) : String :=
  identifier (studly server ++ studly tool ++ "Tool")

/-- The class name of a server's toolset before collisions are resolved. -/
def toolsetBase (server : String) : String := identifier (studly server ++ "Toolset")

end ToolBindings.Name
