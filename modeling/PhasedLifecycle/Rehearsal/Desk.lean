/-
This file plays scripts about signals without components: signals alone, in front of one waiting
list, and signals given out by barriers, resolved at once or in the background, with waits in
between. A signal can be used up once.
-/

import PhasedLifecycle.Rehearsal.Play

namespace PhasedLifecycle.Rehearsal

/-! ### Signals alone -/

/-- A step of a script about signals alone. -/
inductive SignalStep where
  | enter (name : String)
  | make (name : String)
  | resolve (index : Nat) (ending : Ending)
  | inspect (index : Nat)
  | close
  deriving DecidableEq

/-- What a step about signals answers. -/
inductive SignalResult where
  | nothing
  | flag (value : Bool)
  | text (value : String)
  | gone
  | noBarrier
  | outcome (outcome : BarrierOutcome)
  | unknownStep

/-- Instances of `StopSignal` in front of one waiting list; one that was used up is absent. -/
structure SignalDesk where
  list : WaitingList := {}
  signals : List (Option Signal) := []
  receives : Bool := true

namespace SignalDesk

/-- The signal of an index, unless it was used up. -/
def signal? (desk : SignalDesk) (index : Nat) : Option Signal :=
  desk.signals.getD index none

/-- Takes a step. -/
def take (desk : SignalDesk) : SignalStep → SignalResult × SignalDesk
  | .enter name =>
    (.flag (name ∉ desk.list.unresolved), { desk with list := desk.list.enter name })
  | .make name =>
    (.nothing, { desk with signals := desk.signals ++ [some { barrier := 0, name }] })
  | .resolve index ending =>
    match desk.signal? index with
    | none => (.gone, desk)
    | some signal =>
      let list := desk.list.resolve { name := signal.name, ending, instant := 0 }
      (.nothing, { desk with list, signals := desk.signals.set index none })
  | .inspect index =>
    match desk.signal? index with
    | none => (.nothing, desk)
    | some signal => (.text signal.diagnostic, desk)
  | .close => (.nothing, { desk with receives := false })

/-- Takes out the news that arrived. -/
def receive (desk : SignalDesk) : List Arrival × SignalDesk :=
  (if desk.receives then desk.list.arrived else [],
    { desk with list := { desk.list with arrived := [] } })

end SignalDesk

/-! ### Barriers -/

/-- A step of a script about barriers. -/
inductive BarrierStep where
  | countDown
  | extend
  | signal (name : String)
  | resolve (index : Nat) (ending : Ending)
  | resolveLater (index : Nat) (ending : Ending) (delay : Nat)
  | sleep (duration : Nat)
  | wait (patience : Nat)
  | make (count : Nat)
  | unknown
  deriving DecidableEq

/-- A `ShutdownBarrier`, unless it was waited on, and the signals given out by it and those before it. -/
structure BarrierDesk where
  world : World := {}
  barrier : Option Barrier := none
  signals : List (Option Signal) := []

namespace BarrierDesk

/-- Puts up a new barrier. -/
def putUp (desk : BarrierDesk) (count : Nat) : BarrierDesk :=
  let mark := desk.world.nextMark
  { desk with
    world := { desk.world with nextMark := mark + 1 }
    barrier := some { mark, remaining := count } }

/-- The signal of an index, unless it was used up. -/
def signal? (desk : BarrierDesk) (index : Nat) : Option Signal :=
  desk.signals.getD index none

/-- Hands the resolutions that have happened to the barrier. -/
def collect (desk : BarrierDesk) : BarrierDesk :=
  match desk.barrier with
  | none => desk
  | some barrier =>
    let (arrivals, world) := desk.world.takeMail barrier.mark
    { desk with world, barrier := some (arrivals.foldl Barrier.resolve barrier) }

/-- What takes the steps of actors: nothing, as there are none. -/
def idle : Taker := fun _ world => (.nothing, world)

/-- Takes a step that needs the barrier. -/
def takeWith (desk : BarrierDesk) (barrier : Barrier) : BarrierStep → SignalResult × BarrierDesk
  | .countDown => (.nothing, { desk with barrier := some barrier.countDown })
  | .extend => (.nothing, { desk with barrier := some barrier.extend })
  | .signal name =>
    (.nothing,
      { desk with
        barrier := some (barrier.issue name)
        signals := desk.signals ++ [some (barrier.signal name)] })
  | .wait patience =>
    let (outcome, world) := desk.world.conduct idle (.registry 0) (barrier.await patience)
    (.outcome outcome, { desk with world, barrier := none })
  | _ => (.nothing, desk)

/-- Takes a step. -/
def take (desk : BarrierDesk) : BarrierStep → SignalResult × BarrierDesk
  | .resolve index ending =>
    match desk.signal? index with
    | none => (.gone, desk)
    | some signal =>
      (.nothing,
        { desk with
          world := desk.world.resolve signal ending
          signals := desk.signals.set index none }.collect)
  | .resolveLater index ending delay =>
    match desk.signal? index with
    | none => (.gone, desk)
    | some signal =>
      let task := { actor := signal.name, signal, ending, notices := [] : Task }
      let agenda := desk.world.agenda.add (desk.world.clock + delay) task
      (.nothing,
        { desk with
          world := { desk.world with agenda }
          signals := desk.signals.set index none })
  | .sleep duration => (.nothing, { desk with world := desk.world.sleep duration }.collect)
  | .make count => (.nothing, desk.putUp count)
  | .unknown => (.unknownStep, desk)
  | step =>
    match desk.barrier with
    | none => (.noBarrier, desk)
    | some barrier => desk.takeWith barrier step

end BarrierDesk

end PhasedLifecycle.Rehearsal
