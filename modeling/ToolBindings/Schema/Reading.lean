import ToolBindings.Literal.Lexer
import ToolBindings.Schema.Expression

/-!
# Reading schema expressions

The reader of property maps in generated source. `Reading.step` takes one token of the text of a map
and `readMap` returns the properties with the text after the map.
-/

namespace ToolBindings.Schema

/-- What is around an expression that is being read, innermost first. -/
inductive ReadingFrame where
  /-- The expression is the value of `key`, after the properties `done`, latest first. -/
  | property (done : List (String × Expression)) (key : String)
  /-- The properties are those of an object type. -/
  | object
  /-- The expression says what the items of `host` are. -/
  | items (host : Expression)

/-- Where the reading of a property map stands. -/
inductive Reading where
  /-- The map must open. -/
  | opening
  /-- A property name, or the end of the map. -/
  | name (done : List (String × Expression)) (around : List ReadingFrame)
  /-- The colon after a property name. -/
  | colon (done : List (String × Expression)) (key : String) (around : List ReadingFrame)
  /-- The word `schema`. -/
  | factory (around : List ReadingFrame)
  /-- The point after `schema`. -/
  | factoryPoint (around : List ReadingFrame)
  /-- The word for a type. -/
  | typeWord (around : List ReadingFrame)
  /-- The parenthesis after a type. -/
  | typeOpen (kind : Kind) (around : List ReadingFrame)
  /-- The properties of a type, or the end of its parentheses. -/
  | typeBody (kind : Kind) (around : List ReadingFrame)
  /-- The end of the parentheses after properties. -/
  | typeClose (properties : List (String × Expression)) (around : List ReadingFrame)
  /-- A further call, or what follows the expression. -/
  | after (expression : Expression) (around : List ReadingFrame)
  /-- The word for a call. -/
  | method (host : Expression) (around : List ReadingFrame)
  /-- The parenthesis after the word for a call. -/
  | methodOpen (host : Expression) (word : String) (around : List ReadingFrame)
  /-- The value of a setting. -/
  | argument (host : Expression) (setting : Setting) (value : Assembly)
      (around : List ReadingFrame)
  /-- The end of the parentheses of a call. -/
  | methodClose (host : Expression) (call : Call) (around : List ReadingFrame)

namespace Reading

/-- The outcome of a token: more of the text, or the properties of the map. -/
abbrev Result := Outcome Reading (List (String × Expression))

/-- A map is complete. -/
def closeMap (done : List (String × Expression)) : List ReadingFrame → Result
  | [] => .finished done.reverse
  | .object :: around => .more (.typeClose done.reverse around)
  | _ => .fault .malformed

/-- The token after an expression that no call follows. -/
def leave (expression : Expression) : List ReadingFrame → Char → Result
  | .items host :: around, ')' => .more (.after (host.call (.items expression)) around)
  | .property done key :: around, ',' => .more (.name ((key, expression) :: done) around)
  | .property done key :: around, '\x7d' => closeMap ((key, expression) :: done) around
  | _, _ => .fault .malformed

/-- What the word for a call asks for. -/
def openCall (host : Expression) (word : String) (around : List ReadingFrame) : Result :=
  if word = "nullable" then .more (.methodClose host .nullable around)
  else if word = "required" then .more (.methodClose host .required around)
  else if word = "without_additional_properties" then .more (.methodClose host .closed around)
  else if word = "items" then .more (.factory (.items host :: around))
  else
    match Expression.ofSettingMethod? word with
    | some setting => .more (.argument host setting (.beforeValue []) around)
    | none => .fault .malformed

/-- One token. -/
def step : Reading → Token → Result
  | .opening, .mark '\x7b' => .more (.name [] [])
  | .name done around, .mark '\x7d' => closeMap done around
  | .name done around, .scalar (.text key) => .more (.colon done key around)
  | .colon done key around, .mark ':' => .more (.factory (.property done key :: around))
  | .factory around, .name word =>
    if word = "schema" then .more (.factoryPoint around) else .fault .malformed
  | .factoryPoint around, .mark '.' => .more (.typeWord around)
  | .typeWord around, .name word =>
    match Kind.ofWord? word with
    | some kind => .more (.typeOpen kind around)
    | none => .fault .malformed
  | .typeOpen kind around, .mark '(' => .more (.typeBody kind around)
  | .typeBody kind around, .mark ')' => .more (.after (.ofKind kind) around)
  | .typeBody .object around, .mark '\x7b' => .more (.name [] (.object :: around))
  | .typeClose properties around, .mark ')' => .more (.after (.mk .object properties []) around)
  | .after expression around, .mark '.' => .more (.method expression around)
  | .after expression around, .mark c => leave expression around c
  | .method host around, .name word => .more (.methodOpen host word around)
  | .methodOpen host word around, .mark '(' => openCall host word around
  | .argument host setting value around, token =>
    match value.step token with
    | .more value => .more (.argument host setting value around)
    | .finished value => .more (.methodClose host (.set setting value) around)
    | .fault reason => .fault reason
  | .methodClose host call around, .mark ')' => .more (.after (host.call call) around)
  | _, _ => .fault .malformed

end Reading

/-- Reads a property map off the front of a text. -/
def readMap (s : List Char) : Except ReadFault (List (String × Expression) × List Char) :=
  Literal.lexer.run Reading.step .opening s

end ToolBindings.Schema
