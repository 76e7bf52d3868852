import ToolBindings.Config.Value
import ToolBindings.Fault
import ToolBindings.Literal.Printer
import ToolBindings.Text.AnyDigit

/-!
# Fields of models

How a configuration value becomes a field of a model: a text, a text or nothing, a number of
seconds, a map. Values that do not fit are collected, so that all of them are reported.
-/

namespace ToolBindings.Field

/-- A field that fits, or all the places where it does not. -/
abbrev Checked (α : Type) := Except (List FieldFault) α

/-- The fault of a field as a whole. -/
def fault (name kind : String) : List FieldFault := [⟨[name], kind⟩]

/-- A text; a field that is not given has the default. -/
def text (name default : String) (fields : ConfigFields) : Checked String :=
  match ConfigValue.get? name fields with
  | none => .ok default
  | some (.text s) => .ok s
  | some _ => .error (fault name "string_type")

/-- A text, or null for nothing. -/
def optionalText (name : String) (fields : ConfigFields) : Checked (Option String) :=
  match ConfigValue.get? name fields with
  | none | some .null => .ok none
  | some (.text s) => .ok (some s)
  | some _ => .error (fault name "string_type")

/-- How a key that is no text appears in the place of a fault. -/
def keyText : ConfigKey → String
  | .text s => s
  | .null => "None"
  | .bool b => if b then "1" else "0"
  | .int i => String.ofList (Text.decimalInt i)
  | .float x => String.ofList (Literal.layout.write x)

/-- The entries of a map whose keys have to be texts. -/
def textKeys (name : String) (fields : ConfigFields) : Checked (Entries String ConfigValue) :=
  match fields.filter fun (key, _) => key.text?.isNone with
  | [] => .ok (fields.filterMap fun (key, value) => key.text?.map fun s => (s, value))
  | others => .error (others.map fun (key, _) => ⟨[name, keyText key, "[key]"], "string_type"⟩)

/-- A map with text keys. -/
def map (name : String) (default : Entries String ConfigValue) (fields : ConfigFields) :
    Checked (Entries String ConfigValue) :=
  match ConfigValue.get? name fields with
  | none => .ok default
  | some (.map entries) => textKeys name entries
  | some _ => .error (fault name "dict_type")

/-- A map with text keys, or null for nothing. -/
def optionalMap (name : String) (fields : ConfigFields) :
    Checked (Option (Entries String ConfigValue)) :=
  match ConfigValue.get? name fields with
  | none | some .null => .ok none
  | some (.map entries) => (textKeys name entries).map some
  | some _ => .error (fault name "dict_type")

/-! ## Numbers -/

/-- The number that a text writes: digits with an optional point and exponent, or a word. -/
def number? (s : List Char) : Option Binary64 :=
  let (negative, rest) := Numeral.sign s
  let word := String.ofList (rest.map Char.toLower)
  if word = "inf" ∨ word = "infinity" then some (.infinite negative)
  else if word = "nan" then some .nan
  else
    match Numeral.unsigned? negative rest with
    | some n =>
      if n.whole.isEmpty ∧ (n.fraction.getD []).isEmpty then none else some n.toBinary64
    | none => none

/-- Underscores stand singly and between other characters. -/
def underscoresFit : List Char → Bool
  | [] => true
  | ['_'] => false
  | '_' :: '_' :: _ => false
  | _ :: rest => underscoresFit rest

/-- The number that a text writes, blanks around it or underscores inside allowed. -/
def numberText? (s : List Char) : Option Binary64 :=
  match number? (Text.trimBlanks Text.isAnyBlank s) with
  | some x => some x
  | none =>
    if s.head? = some '_' ∨ !underscoresFit s then none else number? (s.filter (· ≠ '_'))

/-- A number; truth values count as one and zero, texts are read. -/
def number (name : String) (default : Binary64) (fields : ConfigFields) : Checked Binary64 :=
  match ConfigValue.get? name fields with
  | none => .ok default
  | some (.float x) => .ok x
  | some (.bool b) => .ok (.ofBool b)
  | some (.int i) =>
    match Binary64.ofInt? i with
    | some x => .ok x
    | none => .error (fault name "float_type")
  | some (.text s) =>
    match numberText? s.toList with
    | some x => .ok x
    | none => .error (fault name "float_parsing")
  | some _ => .error (fault name "float_type")

/-! ## Models -/

/-- The faults of a field. -/
def faults {α : Type} : Checked α → List FieldFault
  | .ok _ => []
  | .error faults => faults

/-- Every key is a text, as the fields of a model need. -/
def allText (fields : ConfigFields) : Bool := fields.all fun (key, _) => key.text?.isSome

end ToolBindings.Field
