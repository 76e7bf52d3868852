import ToolBindings.Data.Basic
import ToolBindings.Text.CodePoint

/-!
# Data of replies

JSON as it is sent may hold texts that are none of characters only. `shown` is what can be kept of
such data, and `isWhole` tells that this is all of it.
-/

namespace ToolBindings

/-- Data whose texts and keys may hold halves of pairs. -/
abbrev LooseJson := Data LooseText LooseText

namespace Data

mutual

/-- The data as it is shown. -/
def shown : LooseJson → Json
  | .null => .null
  | .bool b => .bool b
  | .int i => .int i
  | .float x => .float x
  | .text s => .text s.shown
  | .list items => .list (shownList items)
  | .map fields => .map (Entries.ofList (shownFields fields))

/-- Element by element. -/
def shownList : List LooseJson → List Json
  | [] => []
  | item :: rest => shown item :: shownList rest

/-- Field by field. -/
def shownFields : List (LooseText × LooseJson) → List (String × Json)
  | [] => []
  | (key, value) :: rest => (key.shown, shown value) :: shownFields rest

end

mutual

/-- No text in the data, keys included, holds a half of a pair. -/
def isWhole : LooseJson → Bool
  | .text s => s.isWhole
  | .list items => isWholeList items
  | .map fields => isWholeFields fields
  | _ => true

/-- Element by element. -/
def isWholeList : List LooseJson → Bool
  | [] => true
  | item :: rest => isWhole item && isWholeList rest

/-- Field by field. -/
def isWholeFields : List (LooseText × LooseJson) → Bool
  | [] => true
  | (key, value) :: rest => key.isWhole && isWhole value && isWholeFields rest

end

/-- The fields of a map as they are shown. -/
def shownMap (fields : Entries LooseText LooseJson) : Entries String Json :=
  Entries.ofList (shownFields fields)

end Data
end ToolBindings
