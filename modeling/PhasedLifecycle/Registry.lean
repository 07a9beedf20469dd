/-
This file models the registry: the components under their names in the order of their
registration, and the dependencies recorded between names. A dependency is kept twice, under the
name that depends and under the name depended on, so that both directions answer in the order of
recording. Names need not be registered to depend or to be depended on, and unregistering a
component leaves its dependencies on record.
-/

import PhasedLifecycle.Component
import PhasedLifecycle.Error
import PhasedLifecycle.Registry.Cycle

namespace PhasedLifecycle

/-! ### Names listed under names -/

/-- Names listed under names, both in the order of their arrival. -/
structure NameTable where
  rows : List (String × List String) := []
  deriving DecidableEq

namespace NameTable

/-- The names listed under a name. -/
def under (table : NameTable) (name : String) : List String :=
  ((table.rows.find? (·.1 == name)).map (·.2)).getD []

/-- Lists one more name under a name. -/
def push (table : NameTable) (name entry : String) : NameTable :=
  if table.rows.any (·.1 == name) then
    { rows := table.rows.map fun row => if row.1 == name then (row.1, row.2 ++ [entry]) else row }
  else { rows := table.rows ++ [(name, [entry])] }

end NameTable

/-! ### The registry -/

/-- Components under distinct names, and the dependencies between names in both directions: a
`DefaultComponentRegistry`. -/
structure Registry where
  members : List Member := []
  dependencyTable : NameTable := {}
  dependentTable : NameTable := {}
  deriving DecidableEq

namespace Registry

/-- The number of registered components. -/
def size (registry : Registry) : Nat :=
  registry.members.length

/-- Whether no component is registered. -/
def isEmpty (registry : Registry) : Bool :=
  registry.members.isEmpty

/-- The registered names in order. -/
def names (registry : Registry) : List String :=
  registry.members.map (·.name)

/-- Whether a component is registered under the name. -/
def contains (registry : Registry) (name : String) : Bool :=
  registry.members.any (·.name == name)

/-- The names that a name depends on. -/
def dependenciesOf (registry : Registry) (name : String) : List String :=
  registry.dependencyTable.under name

/-- The names that depend on a name. -/
def dependentsOf (registry : Registry) (name : String) : List String :=
  registry.dependentTable.under name

/-- Registers a component under a name that is still free. -/
def register (registry : Registry) (name : String) (component : Component) :
    Except DependencyError Registry :=
  if registry.contains name then .error (.registration name "组件名称已存在")
  else .ok { registry with members := registry.members ++ [{ name, component }] }

/-- Takes the component of a name out, leaving the dependencies on record. -/
def unregister (registry : Registry) (name : String) : Option Component × Registry :=
  ((registry.members.find? (·.name == name)).map (·.component),
    { registry with members := registry.members.filter (·.name ≠ name) })

/-- Whether it is on record that one name depends on another. -/
def isRecorded (registry : Registry) (dependent dependency : String) : Bool :=
  registry.dependentsOf dependency |>.contains dependent

/-- Puts on record that one name depends on another; once is enough (`depends_on` and, the other way
round, `register_dependent`). -/
def record (registry : Registry) (dependent dependency : String) : Registry :=
  if registry.isRecorded dependent dependency then registry
  else
    { registry with
      dependencyTable := registry.dependencyTable.push dependent dependency
      dependentTable := registry.dependentTable.push dependency dependent }

/-- The registered names with what they depend on (`build_dependency_graph`). -/
def graph (registry : Registry) : DependencyGraph :=
  registry.names.map fun name => { name, dependencies := registry.dependenciesOf name }

/-- The circle of dependencies among registered names, if there is one (`validate_dependencies`). -/
def circle? (registry : Registry) : Option Circle :=
  registry.graph.findCircle?

/-- The registry with its names and what each depends on. -/
def diagnostic (registry : Registry) : String :=
  Text.record "DefaultComponentRegistry"
    [("components", Text.quotedListing registry.names),
      ("dependencies", Text.mapping (registry.dependencyTable.rows.map fun (name, entries) =>
        (Text.quoted name, Text.quotedListing entries)))]

end Registry

end PhasedLifecycle
