/-
This file says what a component is to the rest of the library: a key under which its surroundings
know it, and the capability that decides which questions it answers for itself. A plain component
only starts and stops; a phased one also has a phase; a smart one has, besides, a say in whether
it starts by itself, and stops in the background.
-/

namespace PhasedLifecycle

/-- What a component can do beyond starting and stopping: which of the three variants of
`LifecycleComponent` it is. -/
inductive Capability where
  | plain
  | phased
  | smart
  deriving DecidableEq

/-- The name of the capability in diagnostics. -/
def Capability.label : Capability → String
  | .plain => "Lifecycle"
  | .phased => "Phased"
  | .smart => "SmartLifecycle"

/-- A component, known to its surroundings by a key: a `LifecycleComponent`. -/
structure Component where
  key : String
  capability : Capability
  deriving DecidableEq

/-- Whether the component stops in the background. -/
def Component.isSmart (component : Component) : Bool :=
  component.capability == .smart

/-- The last phase of all, where smart components stand unless they say otherwise. -/
def lastPhase : Int := 2147483647

/-- A component under the name it goes by, as `lifecycle_components` lists it. -/
structure Member where
  name : String
  component : Component
  deriving DecidableEq

end PhasedLifecycle
