import ToolBindings.Binding.Registry

/-!
# Toolsets

Choosing among tool classes by name. A selector names a class bare or by its dotted identifier. The
toolset of an agent takes only what the agent wants, or everything but what it does not want; what
it wants comes first.
-/

namespace ToolBindings

/-- What a class is chosen by. -/
inductive Selector where
  | className (name : String)
  | identifier (dotted : String)

namespace Selector

/-- The class name that is meant: what stands after the last dot. Nothing is meant by an empty
identifier. -/
def target? : Selector → Option String
  | .className name => some name
  | .identifier dotted =>
    if dotted = "" then none
    else (Text.splitOn '.' dotted.toList).getLast?.map String.ofList

/-- The class names that are meant. -/
def targets (selectors : List Selector) : List String := selectors.filterMap target?

/-- The classes that are selected, in their order. -/
def only (selectors : List Selector) (classes : List ToolClass) : List ToolClass :=
  classes.filter fun c => (targets selectors).contains c.className

/-- The classes that are not selected, in their order. -/
def except (selectors : List Selector) (classes : List ToolClass) : List ToolClass :=
  classes.filter fun c => !(targets selectors).contains c.className

end Selector

/-- Which classes of a toolset are taken. -/
inductive Choice where
  | all
  | only (selectors : List Selector)
  | except (selectors : List Selector)

namespace Choice

/-- The classes that are taken. -/
def apply : Choice → List ToolClass → List ToolClass
  | .all, classes => classes
  | .only selectors, classes => Selector.only selectors classes
  | .except selectors, classes => Selector.except selectors classes

/-- The choice of an agent that names classes to take and classes to leave out. -/
def ofWishes (wanted unwanted : List Selector) : Choice :=
  if wanted.isEmpty then (if unwanted.isEmpty then .all else .except unwanted) else .only wanted

end Choice

namespace Registry

/-- The classes of the wanted servers that are taken. -/
def choose (registry : Registry) (importer : Importer) (table : BindingTable)
    (wanted : List String) (choice : Choice) : Except Fault (List ToolClass) × BindingTable :=
  let found := registry.classes importer table wanted .everything
  match found.fault with
  | some fault => (.error fault, found.table)
  | none => (.ok (choice.apply found.classes), found.table)

end Registry

/-- A host of tools: its name, whether it has a toolset, and what it wants. -/
structure Agent where
  name : String
  hasToolset : Bool
  servers : List String
  wanted : List Selector
  unwanted : List Selector

namespace Agent

/-- The tools of an agent. -/
def tools (agent : Agent) (registry : Registry) (importer : Importer) (table : BindingTable) :
    Except Fault (List ToolClass) × BindingTable :=
  if agent.hasToolset then
    registry.choose importer table agent.servers (.ofWishes agent.wanted agent.unwanted)
  else (.error (.ofConfiguration (.noToolset agent.name)), table)

end Agent
end ToolBindings
