import ToolBindings.Data.Basic

/-!
# Merging data

Layers of data. Where both layers hold a map the maps are merged key by key, everywhere else the
upper layer wins; keys keep the order in which they first came, the lower layer's first.
-/

namespace ToolBindings.Data

variable {κ : Type} [DecidableEq κ]

mutual

/-- The value of a key after an upper layer says `upper` of it. -/
def mergeValue (lower : Option (Data κ)) : (upper : Data κ) → Data κ
  | .map fields =>
    match lower with
    | some (.map base) => .map (mergeFields base fields)
    | _ => .map fields
  | .list items => .list items
  | .null => .null
  | .bool b => .bool b
  | .int i => .int i
  | .float x => .float x
  | .text s => .text s

/-- The fields of a map under those of an upper layer. -/
def mergeFields (base : List (κ × Data κ)) : (upper : List (κ × Data κ)) → List (κ × Data κ)
  | [] => base
  | (key, value) :: rest =>
    mergeFields (Entries.put key (mergeValue (Entries.get? key base) value) base) rest

end

mutual

/-- The data with a function applied to every text that is not a key. -/
def mapTexts (f : String → String) : Data κ → Data κ
  | .text s => .text (f s)
  | .list items => .list (mapTextsList f items)
  | .map fields => .map (mapTextsFields f fields)
  | .null => .null
  | .bool b => .bool b
  | .int i => .int i
  | .float x => .float x

/-- Element by element. -/
def mapTextsList (f : String → String) : List (Data κ) → List (Data κ)
  | [] => []
  | item :: rest => mapTexts f item :: mapTextsList f rest

/-- Field by field. -/
def mapTextsFields (f : String → String) : List (κ × Data κ) → List (κ × Data κ)
  | [] => []
  | (key, value) :: rest => (key, mapTexts f value) :: mapTextsFields f rest

end

end ToolBindings.Data
