/-
This file models the barrier at the end of a stop phase. It counts the signals still awaited, gives
out signals, and is told of their resolutions. A wait takes arrivals one by one, in order, until
the count is zero or the deadline has passed; each taken arrival lowers the count by one.
-/

import PhasedLifecycle.Signal

namespace PhasedLifecycle

/-! ### The barrier -/

/-- A count of awaited signals, with the list of the signals given out under its mark: a
`ShutdownBarrier`. -/
structure Barrier where
  mark : Nat
  remaining : Nat
  list : WaitingList := {}
  deriving DecidableEq

namespace Barrier

/-- One signal less is awaited; a count of zero stays (`count_down`). -/
def countDown (barrier : Barrier) : Barrier :=
  { barrier with remaining := barrier.remaining - 1 }

/-- One signal more is awaited. The count is a word of 64 bits and starts again at zero beyond. -/
def extend (barrier : Barrier) : Barrier :=
  { barrier with remaining := (barrier.remaining + 1) % 0x10000000000000000 }

/-- The signal given out under a name. -/
def signal (barrier : Barrier) (name : String) : Signal :=
  { barrier := barrier.mark, name }

/-- Notes that a signal was given out under a name; with `signal` it makes up `signal_for`. -/
def issue (barrier : Barrier) (name : String) : Barrier :=
  { barrier with list := barrier.list.enter name }

/-- Takes note that a signal of the barrier was resolved. -/
def resolve (barrier : Barrier) (arrival : Arrival) : Barrier :=
  { barrier with list := barrier.list.resolve arrival }

/-- Takes note of a resolution; one that belongs to another barrier changes nothing. -/
def receive (barrier : Barrier) (resolution : Resolution) : Barrier :=
  if resolution.signal.barrier = barrier.mark then barrier.resolve resolution.arrival else barrier

/-- The open names in order. -/
def pending (barrier : Barrier) : List String :=
  barrier.list.pending

/-- The barrier with all its fields. -/
def diagnostic (barrier : Barrier) : String :=
  Text.record "ShutdownBarrier"
    [("remaining", toString barrier.remaining), ("pending", Text.quotedListing barrier.pending)]

end Barrier

/-! ### The outcome of a wait -/

/-- What a wait saw: the completed and the abandoned names as they arrived, the names still open
at its end, and whether it ended at the deadline. -/
structure BarrierOutcome where
  completed : List String := []
  abandoned : List String := []
  pending : List String := []
  timedOut : Bool := false
  deriving DecidableEq

/-- Notes one taken arrival. -/
def BarrierOutcome.take (outcome : BarrierOutcome) (arrival : Arrival) : BarrierOutcome :=
  match arrival.ending with
  | .completed => { outcome with completed := outcome.completed ++ [arrival.name] }
  | .abandoned => { outcome with abandoned := outcome.abandoned ++ [arrival.name] }

/-- A wait under way: the barrier and what was seen so far. -/
structure Wait where
  barrier : Barrier
  outcome : BarrierOutcome := {}
  deriving DecidableEq

namespace Wait

/-- Takes the arrivals that are there, as long as the barrier awaits one. -/
def takeArrived (wait : Wait) : Wait :=
  let ready := wait.barrier.list.arrived.take wait.barrier.remaining
  { barrier :=
      { wait.barrier with
        remaining := wait.barrier.remaining - ready.length
        list := { wait.barrier.list with arrived := wait.barrier.list.arrived.drop ready.length } }
    outcome := ready.foldl BarrierOutcome.take wait.outcome }

/-- Whether nothing is awaited any more. -/
def isOver (wait : Wait) : Bool :=
  wait.barrier.remaining == 0

/-- The outcome once the wait has ended, at the deadline or before. -/
def finish (wait : Wait) (timedOut : Bool) : BarrierOutcome :=
  { wait.outcome with pending := wait.barrier.pending, timedOut }

end Wait

end PhasedLifecycle
