/-
This file lists the steps of a rehearsal: what a script can ask of the registry, of a component, of
an orchestrator, of a container, or of the parts of a pass by themselves. Steps are also what a
component does while one of its calls runs.
-/

import PhasedLifecycle.Barrier
import PhasedLifecycle.Blueprint

namespace PhasedLifecycle.Rehearsal

/-- The two calls that every component answers, and the one that only smart ones do. -/
inductive Method where
  | start
  | stop
  | stopAsync
  deriving DecidableEq

/-- The name of the call. -/
def Method.label : Method → String
  | .start => "start"
  | .stop => "stop"
  | .stopAsync => "stop_async"

/-- A name with the actor that plays it. -/
structure Role where
  name : String
  actor : String
  deriving DecidableEq

/-- What a script builds a container from. -/
structure BuildScript where
  /-- Whether the container gets a registry of its own instead of the present one. -/
  fresh : Bool := false
  roles : List Role := []
  dependencies : List (String × String) := []
  settings : Option Settings := none
  source : Option SettingsSource := none
  validates : Option Bool := none

/-- What a step shows with all its fields. -/
inductive Subject where
  | registry
  | orchestrator
  | container
  | group
  | actor (id : String)

/-- One step of a script. -/
inductive Step where
  -- the present registry
  | register (role : Role)
  | unregister (name : String)
  | depend (dependent dependency : String)
  | registerDependent (name dependent : String)
  | size
  | validate
  -- the registry in view
  | contains (name : String)
  | dependencies (name : String)
  | dependents (name : String)
  | roster
  | graph
  -- actors
  | set (actor : String) (running : Option Bool) (phase : Option Int) (auto : Option Bool)
  | release (actor : String) (drop : Bool)
  | call (actor : String) (method : Method)
  | sleep (duration : Nat)
  -- the orchestrator
  | start
  | refreshPass
  | stop
  | closePass
  | isRunning
  | attach
  | setTimeout (timeout : Nat)
  | timeout
  -- the container
  | build (script : BuildScript)
  /-- Refreshes the container of a number, or else the latest. -/
  | refresh (container : Option Nat := none)
  /-- Closes the container of a number, or else the latest. -/
  | close (container : Option Nat := none)
  | status
  | metrics
  | lastReport
  | settings
  -- parts of a pass
  | newGroup (phase : Int) (timeout : Nat) (autoOnly : Bool)
  | addMember (role : Role)
  | workingSet (roles : List Role)
  | startGroup
  | stopGroup
  | startName (name : String) (autoOnly : Bool)
  | stopName (name : String) (members : List String) (count : Nat) (patience : Nat)
  | report
  | newReport
  | inspect (subject : Subject)
  | unknown (name : String)

/-- A row of a roster: a name and what its component answers. -/
structure RosterRow where
  name : String
  kind : String
  phase : Int
  auto : Bool
  running : Bool
  deriving DecidableEq

/-- What a step answers. -/
inductive Result where
  | nothing
  | done
  | flag (value : Bool)
  | number (value : Int)
  | text (value : String)
  | names (values : List String)
  | size (count : Nat)
  | roster (rows : List RosterRow)
  | graph (nodes : DependencyGraph)
  | report (report : StopReport)
  | status (status : ContainerStatus) (isRunning : Bool)
  | metrics (metrics : Metrics)
  | barrierRun (barrier : String) (outcome : BarrierOutcome)
  | traversal (result : Result) (left : List String)
  | dependencyError (error : DependencyError)
  | lifecycleError (error : LifecycleError)
  | infrastructureError (error : InfrastructureError)
  | componentError (reason : String)
  | noContainer
  | unknownStep (name : String)

/-- What is seen to happen during a step, with the instants of the virtual clock. -/
inductive Event where
  /-- A call of a component. -/
  | called (instant : Nat) (method : Method) (actor : String)
  /-- A step that a component took while one of its calls ran. -/
  | hooked (instant : Nat) (actor : String) (step : Step) (result : Result)
  /-- A background stop that came to its end. -/
  | ended (instant : Nat) (ending : Ending) (actor : String)

end PhasedLifecycle.Rehearsal
