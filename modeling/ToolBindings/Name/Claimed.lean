import ToolBindings.Data.Sorted
import ToolBindings.Name.Basic
import ToolBindings.Text.Digits

/-!
# Claimed names

The names given out in one pass, and the choice of a free one: the base name; else the base with a
mark of what is named; else that with the least counter from 2 on that is still free.
-/

namespace ToolBindings.Name

/-- A base name that is taken where no suffix is allowed. -/
inductive Collision where
  | tool (server tool base : String)
  | toolset (server base : String)
deriving DecidableEq

/-- The names claimed so far, each once. -/
structure Claimed where
  names : List String
  nodup : names.Nodup

namespace Claimed

/-- No names. -/
def empty : Claimed := ⟨[], List.nodup_nil⟩

instance : Membership String Claimed := ⟨fun claimed name => name ∈ claimed.names⟩

instance (name : String) (claimed : Claimed) : Decidable (name ∈ claimed) :=
  inferInstanceAs (Decidable (name ∈ claimed.names))

/-- Number of names. -/
def size (claimed : Claimed) : Nat := claimed.names.length

/-- The names in ascending order. -/
def toSortedList (claimed : Claimed) : List String := Text.sorted claimed.names

/-- Adds a name; one that is there already changes nothing. -/
def claim (claimed : Claimed) (name : String) : Claimed :=
  if h : name ∈ claimed.names then claimed
  else ⟨name :: claimed.names, List.nodup_cons.2 ⟨h, claimed.nodup⟩⟩

/-- A stem with a counter. -/
def counted (stem : String) (counter : Nat) : String :=
  stem ++ String.ofList (Text.decimal counter)

/-- The least counter from `counter` on with a free name, among `tries` of them; after that the next
one. -/
def freeCounter (claimed : Claimed) (stem : String) : (tries counter : Nat) → Nat
  | 0, counter => counter
  | tries + 1, counter =>
    if counted stem counter ∈ claimed then freeCounter claimed stem tries (counter + 1) else counter

/-- A free name for a base that is taken. Of `size + 1` counted names one is free. -/
def suffixed (claimed : Claimed) (base mark : String) : String :=
  let stem := base ++ mark
  if stem ∈ claimed then counted stem (claimed.freeCounter stem (claimed.size + 1) 2) else stem

/-- Claims a base name, or a suffixed one if it is taken and suffixes are allowed. -/
def allocate (claimed : Claimed) (base mark : String) (suffixes : Bool) (collision : Collision) :
    Except Collision (String × Claimed) :=
  if base ∈ claimed then
    if suffixes then
      let name := claimed.suffixed base mark
      .ok (name, claimed.claim name)
    else .error collision
  else .ok (base, claimed.claim base)

/-- Claims the class name of a tool. -/
def allocateTool (claimed : Claimed) (server tool : String) (suffixes : Bool) :
    Except Collision (String × Claimed) :=
  let base := toolBase server tool
  claimed.allocate base (mark (server ++ "|" ++ tool)) suffixes (.tool server tool base)

/-- Claims the class name of a server's toolset. -/
def allocateToolset (claimed : Claimed) (server : String) (suffixes : Bool) :
    Except Collision (String × Claimed) :=
  let base := toolsetBase server
  claimed.allocate base (mark server) suffixes (.toolset server base)

end Claimed
end ToolBindings.Name
