import ToolBindings.Binding.ToolClass

/-!
# Binding tables

The tool classes that are known, each under its server, tool and class name. A manifest may name a
tool twice, so that server and tool alone do not tell its classes apart.
-/

namespace ToolBindings

/-- What a class is known under. -/
structure BindingKey where
  server : String
  tool : String
  className : String
deriving DecidableEq

namespace BindingKey

/-- The order by server, then tool, then class name. -/
def le (a b : BindingKey) : Bool :=
  a.server < b.server ||
    (a.server == b.server && Text.lePair (a.tool, a.className) (b.tool, b.className))

end BindingKey

/-- What a class is known under. -/
def ToolClass.key (c : ToolClass) : BindingKey := ⟨c.server, c.tool, c.className⟩

/-- Tool classes with different keys. -/
structure BindingTable where
  classes : List ToolClass
  nodup : (classes.map ToolClass.key).Nodup

namespace BindingTable

/-- No classes. -/
def empty : BindingTable := ⟨[], by simp⟩

/-- Number of classes. -/
def size (table : BindingTable) : Nat := table.classes.length

/-- The class of a key. -/
def get? (table : BindingTable) (key : BindingKey) : Option ToolClass :=
  table.classes.find? (·.key = key)

/-- All classes in the order of their keys. -/
def toList (table : BindingTable) : List ToolClass :=
  table.classes.mergeSort fun a b => a.key.le b.key

/-- The class of a tool with the least name. -/
def first? (table : BindingTable) (server tool : String) : Option ToolClass :=
  table.toList.find? fun c => c.server = server ∧ c.tool = tool

/-- Adds a class; one that was there under the same key gives way. -/
def insert (table : BindingTable) (c : ToolClass) : BindingTable where
  classes := table.classes.filter (·.key ≠ c.key) ++ [c]
  nodup := by
    rw [List.map_append, List.nodup_append]
    refine ⟨?_, by simp, ?_⟩
    · exact (List.Sublist.map _ List.filter_sublist).nodup table.nodup
    · simp only [List.mem_map, List.mem_filter, decide_eq_true_eq, List.map_cons, List.map_nil,
        List.mem_singleton]
      rintro _ ⟨x, ⟨-, hx⟩, rfl⟩ _ rfl
      exact hx

/-- Adds a class that names a server and a tool. -/
def register (table : BindingTable) (c : ToolClass) : Except ConfigurationFault BindingTable :=
  if c.server = "" ∨ c.tool = "" then .error (.notABinding c.className) else .ok (table.insert c)

/-- A table of classes. -/
def ofClasses (classes : List ToolClass) : Except ConfigurationFault BindingTable :=
  classes.foldlM register empty

end BindingTable
end ToolBindings
