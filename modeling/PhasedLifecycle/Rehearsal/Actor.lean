/-
This file describes the actors of a rehearsal: components whose calls take a scripted time, end in
a scripted way, and may take steps of their own when they are called for the first time.
-/

import PhasedLifecycle.Component
import PhasedLifecycle.Rehearsal.Step

namespace PhasedLifecycle.Rehearsal

/-! ### Scripts of calls -/

/-- How a start or a stop ends. -/
inductive CallEnding where
  /-- It succeeds and changes whether the actor runs. -/
  | succeed
  /-- It fails and changes nothing. -/
  | fail
  /-- It fails after changing whether the actor runs. -/
  | failChanged
  /-- It succeeds and changes nothing. -/
  | idle
  deriving DecidableEq

/-- The script of a start or a stop. -/
structure CallScript where
  duration : Nat := 0
  ending : CallEnding := .succeed
  reason : String := "boom"
  /-- How many calls fail; absent, all do. -/
  failures : Option Nat := none
  /-- What the actor reports when called. -/
  notices : List Notice := []

/-- How a background stop goes on after it was asked for. -/
inductive AsyncEnding where
  /-- It ends at once, and the signal is completed. -/
  | immediate
  /-- It is the actor's own stop, then the signal is completed. -/
  | throughStop
  /-- It ends later, and the signal is resolved then; the call itself may fail. -/
  | delayed (duration : Nat) (ending : Ending) (failing : Bool)
  /-- The signal is kept until it is released; the call itself may fail. -/
  | hold (failing : Bool)
  /-- The signal is dropped; the call itself may fail. -/
  | drop (failing : Bool)
  /-- It ends and the signal is completed, but the call fails. -/
  | completeFailing
  /-- The signal is completed, but the actor goes on running. -/
  | completeRunning
  deriving DecidableEq

/-- The script of a background stop. -/
structure AsyncScript where
  duration : Nat := 0
  ending : AsyncEnding := .immediate
  reason : String := "boom"
  /-- What the actor reports when called. -/
  notices : List Notice := []
  /-- What the actor reports at the end of a delayed stop. -/
  lateNotices : List Notice := []

/-! ### Actors -/

/-- The kinds of actors. A default one is smart, but answers and stops the way smart components do
that say nothing else. -/
inductive ActorKind where
  | plain
  | phased
  | smart
  | smartDefault
  deriving DecidableEq

/-- The capability that an actor of the kind has. -/
def ActorKind.capability : ActorKind → Capability
  | .plain => .plain
  | .phased => .phased
  | .smart => .smart
  | .smartDefault => .smart

/-- An actor with its scripts, its present state, and how often each call was made. -/
structure Actor where
  id : String
  kind : ActorKind
  phase : Int := 0
  auto : Bool := true
  running : Bool := false
  startScript : CallScript := {}
  stopScript : CallScript := {}
  stopAsyncScript : AsyncScript := {}
  startHooks : List Step := []
  stopHooks : List Step := []
  stopAsyncHooks : List Step := []
  starts : Nat := 0
  stops : Nat := 0
  asyncStops : Nat := 0
  held : List Signal := []

namespace Actor

/-- The actor as a component. -/
def component (actor : Actor) : Component :=
  { key := actor.id, capability := actor.kind.capability }

/-- The phase the actor answers. -/
def answeredPhase (actor : Actor) : Int :=
  match actor.kind with
  | .plain => 0
  | .phased | .smart => actor.phase
  | .smartDefault => lastPhase

/-- Whether the actor answers that it starts by itself. -/
def answeredAuto (actor : Actor) : Bool :=
  match actor.kind with
  | .smart => actor.auto
  | .plain | .phased | .smartDefault => true

/-- How often a call was made so far. -/
def calls (actor : Actor) : Method → Nat
  | .start => actor.starts
  | .stop => actor.stops
  | .stopAsync => actor.asyncStops

/-- The actor after one more call. -/
def count (actor : Actor) : Method → Actor
  | .start => { actor with starts := actor.starts + 1 }
  | .stop => { actor with stops := actor.stops + 1 }
  | .stopAsync => { actor with asyncStops := actor.asyncStops + 1 }

/-- The steps that the actor takes at the first call. -/
def hooks (actor : Actor) : Method → List Step
  | .start => actor.startHooks
  | .stop => actor.stopHooks
  | .stopAsync => actor.stopAsyncHooks

/-- The actor as diagnostics show it. -/
def diagnostic (actor : Actor) : String :=
  Text.record "LifecycleComponent"
    [("kind", Text.quoted actor.component.capability.label),
      ("phase", toString actor.answeredPhase)]

end Actor

end PhasedLifecycle.Rehearsal
