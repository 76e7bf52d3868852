import ToolBindings.Data.Basic
import ToolBindings.Json.Printer

/-!
# Configuration values

Configuration is data whose keys may be any scalar, since files may write keys such as `1` or
`true`. Keys that are texts are the ones that settings are found under.
-/

namespace ToolBindings

/-- A key of a configuration map. -/
inductive ConfigKey where
  | text (value : String)
  | null
  | bool (value : Bool)
  | int (value : Int)
  | float (value : Binary64)
deriving DecidableEq

/-- Configuration data. -/
abbrev ConfigValue := Data ConfigKey

/-- The fields of a configuration map. -/
abbrev ConfigFields := Entries ConfigKey ConfigValue

namespace ConfigKey

/-- The key that a scalar makes; lists and maps make none. -/
def ofValue? : ConfigValue → Option ConfigKey
  | .text s => some (.text s)
  | .null => some .null
  | .bool b => some (.bool b)
  | .int i => some (.int i)
  | .float x => some (.float x)
  | .list _ | .map _ => none

/-- The text of a key, if it is one. -/
def text? : ConfigKey → Option String
  | .text s => some s
  | _ => none

/-- The text that stands for a key where only texts can be keys. -/
def toText : ConfigKey → String
  | .text s => s
  | .null => "null"
  | .bool true => "true"
  | .bool false => "false"
  | .int i => String.ofList (Text.decimalInt i)
  | .float x => String.ofList (Json.layout.write x)

end ConfigKey

namespace ConfigValue

/-- Data with text keys as configuration. -/
def ofJson (value : Json) : ConfigValue := value.mapKeys .text

/-- Configuration as data with text keys. -/
def toJson (value : ConfigValue) : Json := Data.mapKeys ConfigKey.toText value

/-- Fields with text keys as configuration. -/
def ofJsonFields (fields : Entries String Json) : ConfigFields := Data.mapKeysFields .text fields

/-- Configuration fields with text keys. -/
def toJsonFields (fields : ConfigFields) : Entries String Json :=
  Data.mapKeysFields ConfigKey.toText fields

/-- The value of a text key. -/
def get? (key : String) (fields : ConfigFields) : Option ConfigValue :=
  Entries.get? (.text key) fields

end ConfigValue
end ToolBindings
