import ToolBindings.Config.Value
import ToolBindings.Fault

/-!
# Authentication headers

A server's `auth` map names a strategy that turns the map into request headers. Two strategies are
built in: a bearer token, and a header of any name.
-/

namespace ToolBindings

/-- Request headers. -/
abbrev Headers := Entries String String

/-- Makes headers of an `auth` map, for a server and a tool where they are known. -/
abbrev AuthStrategy :=
  (auth : Entries String ConfigValue) → (server tool : Option String) → Headers

namespace AuthStrategy

/-- The text of a field, if it is one. -/
def textField? (auth : Entries String ConfigValue) (key : String) : Option String :=
  (Entries.get? key auth).bind Data.text?

/-- A bearer token, unless it is missing or empty. -/
def bearer : AuthStrategy := fun auth _ _ =>
  match textField? auth "token" with
  | some token => if token = "" then [] else [("Authorization", "Bearer " ++ token)]
  | none => []

/-- A header of any name, unless the name is missing or empty or the value is missing. -/
def header : AuthStrategy := fun auth _ _ =>
  match textField? auth "header", textField? auth "value" with
  | some name, some value => if name = "" then [] else [(name, value)]
  | _, _ => []

end AuthStrategy

/-- Strategies by the tags that name them. -/
abbrev AuthStrategies := Entries String AuthStrategy

namespace AuthStrategies

/-- The built-in strategies. -/
def builtIn : AuthStrategies := [("bearer", AuthStrategy.bearer), ("header", AuthStrategy.header)]

/-- Gives a tag a strategy; a candidate that is none is refused. -/
def register (strategies : AuthStrategies) (tag : String) (candidate : Option AuthStrategy) :
    Except ConfigurationFault AuthStrategies :=
  match candidate with
  | some strategy => .ok (Entries.put tag strategy strategies)
  | none => .error (.notAStrategy tag)

/-- The headers for an `auth` map; without one there are none. -/
def headers (strategies : AuthStrategies) (auth : Option (Entries String ConfigValue))
    (server tool : Option String) : Except ConfigurationFault Headers :=
  match auth with
  | none => .ok []
  | some auth =>
    match AuthStrategy.textField? auth "strategy" with
    | none => .error .missingStrategy
    | some tag =>
      if tag = "" then .error .missingStrategy
      else
        match Entries.get? tag strategies with
        | none => .error (.unknownStrategy tag)
        | some strategy => .ok (strategy auth server tool)

end AuthStrategies
end ToolBindings
