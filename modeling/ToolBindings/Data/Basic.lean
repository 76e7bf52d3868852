import ToolBindings.Data.Entries
import ToolBindings.Decimal.Binary64

/-!
# Data

The values that files, replies and schemas hold: scalars, lists, and maps that keep the order of
their keys. Integers and binary64 numbers stay apart. `Json` is the case of text keys.
-/

namespace ToolBindings

/-- A tree of scalars, lists and maps with keys of type `κ` and texts of type `τ`. -/
inductive Data (κ : Type) (τ : Type := String) where
  | null
  | bool (value : Bool)
  | int (value : Int)
  | float (value : Binary64)
  | text (value : τ)
  | list (items : List (Data κ τ))
  | map (fields : List (κ × Data κ τ))

/-- Data with text keys. -/
abbrev Json := Data String

namespace Data

variable {κ τ : Type}

instance : Inhabited (Data κ τ) := ⟨.null⟩

/-! ## Views -/

def isNull : Data κ τ → Bool
  | .null => true
  | _ => false

def text? : Data κ τ → Option τ
  | .text s => some s
  | _ => none

def int? : Data κ τ → Option Int
  | .int i => some i
  | _ => none

def list? : Data κ τ → Option (List (Data κ τ))
  | .list items => some items
  | _ => none

def map? : Data κ τ → Option (Entries κ (Data κ τ))
  | .map fields => some fields
  | _ => none

/-- An integer or a binary64 number. -/
def isNumber : Data κ τ → Bool
  | .int _ | .float _ => true
  | _ => false

/-- The value of a field, for a map that has it. -/
def field? [DecidableEq κ] (key : κ) : Data κ τ → Option (Data κ τ)
  | .map fields => Entries.get? key fields
  | _ => none

/-! ## Keys -/

mutual

/-- The same data under keys of another type. -/
def mapKeys {ι : Type} (f : κ → ι) : Data κ → Data ι
  | .null => .null
  | .bool b => .bool b
  | .int i => .int i
  | .float x => .float x
  | .text s => .text s
  | .list items => .list (mapKeysList f items)
  | .map fields => .map (mapKeysFields f fields)

/-- Element by element. -/
def mapKeysList {ι : Type} (f : κ → ι) : List (Data κ) → List (Data ι)
  | [] => []
  | item :: rest => mapKeys f item :: mapKeysList f rest

/-- Field by field. -/
def mapKeysFields {ι : Type} (f : κ → ι) : List (κ × Data κ) → List (ι × Data ι)
  | [] => []
  | (key, value) :: rest => (f key, mapKeys f value) :: mapKeysFields f rest

end

/-! ## Finite numbers -/

mutual

/-- Every number in the data is finite. -/
def allFinite : Data κ → Bool
  | .float x => x.isFinite
  | .list items => allFiniteList items
  | .map fields => allFiniteFields fields
  | _ => true

/-- Element by element. -/
def allFiniteList : List (Data κ) → Bool
  | [] => true
  | item :: rest => allFinite item && allFiniteList rest

/-- Field by field. -/
def allFiniteFields : List (κ × Data κ) → Bool
  | [] => true
  | (_, value) :: rest => allFinite value && allFiniteFields rest

end

end Data
end ToolBindings
