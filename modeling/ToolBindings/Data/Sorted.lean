import ToolBindings.Data.Basic

/-!
# Sorted data

The order of texts by code point, stable sorting by a key, and data with every map sorted by key.
-/

namespace ToolBindings

/-- Puts a thing before the first of some that it may come before. -/
def insertBy {α : Type} (le : α → α → Bool) (a : α) : List α → List α
  | [] => [a]
  | b :: rest => if le a b then a :: b :: rest else b :: insertBy le a rest

/-- Sorts by inserting one thing after the other; equal ones keep their order. -/
def sortBy {α : Type} (le : α → α → Bool) : List α → List α
  | [] => []
  | a :: rest => insertBy le a (sortBy le rest)

@[simp] theorem sortBy_nil {α : Type} (le : α → α → Bool) : sortBy le [] = [] := rfl

@[simp] theorem sortBy_singleton {α : Type} (le : α → α → Bool) (a : α) : sortBy le [a] = [a] := rfl

namespace Text

/-- The order of texts by code point. -/
def le (a b : String) : Bool := !(b < a)

/-- The order of pairs of texts: by the first, then by the second. -/
def lePair (a b : String × String) : Bool :=
  a.1 < b.1 || (a.1 == b.1 && le a.2 b.2)

/-- Texts in ascending order. -/
def sorted (texts : List String) : List String := sortBy le texts

/-- Sorts by a text; equal ones keep their order. -/
def sortedBy {α : Type} (key : α → String) (items : List α) : List α :=
  sortBy (fun a b => le (key a) (key b)) items

/-- Sorts by a pair of texts; equal ones keep their order. -/
def sortedByPair {α : Type} (key : α → String × String) (items : List α) : List α :=
  sortBy (fun a b => lePair (key a) (key b)) items

end Text

namespace Data

mutual

/-- The data with every map in ascending key order; lists keep their order. -/
def sorted : Json → Json
  | .list items => .list (sortedList items)
  | .map fields => .map (Text.sortedBy (·.1) (sortedFields fields))
  | .null => .null
  | .bool b => .bool b
  | .int i => .int i
  | .float x => .float x
  | .text s => .text s

/-- Element by element. -/
def sortedList : List Json → List Json
  | [] => []
  | item :: rest => sorted item :: sortedList rest

/-- Field by field, the fields in their order. -/
def sortedFields : List (String × Json) → List (String × Json)
  | [] => []
  | (key, value) :: rest => (key, sorted value) :: sortedFields rest

end

end Data
end ToolBindings
