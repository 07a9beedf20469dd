/-
This file models stop signals: the promises by which a component that stops in the background
reports, once, that it is done or that it gave up. A waiting list keeps the names still open and
the resolutions that arrived, in order.

To resolve a signal is one instant: its name is taken off the list and the news of it is sent. A wait that
reads the list between the two, on another thread, is not modelled.
-/

import PhasedLifecycle.Text.Quoted

namespace PhasedLifecycle

/-! ### Signals and their resolutions -/

/-- A promise to report the end of one component's stop to one barrier: a `StopSignal`. -/
structure Signal where
  barrier : Nat
  name : String
  deriving DecidableEq

/-- How a signal was resolved, reported or dropped without a report: the two variants of
`StopSignalEvent`. -/
inductive Ending where
  | completed
  | abandoned
  deriving DecidableEq

/-- The news that the signal given out under a name was resolved at an instant. -/
structure Arrival where
  name : String
  ending : Ending
  instant : Nat
  deriving DecidableEq

/-- A signal resolved at an instant. -/
structure Resolution where
  signal : Signal
  ending : Ending
  instant : Nat
  deriving DecidableEq

/-- The news that the signal's own barrier hears of. -/
def Resolution.arrival (resolution : Resolution) : Arrival :=
  { name := resolution.signal.name, ending := resolution.ending, instant := resolution.instant }

/-- A signal that is still open, with all its fields. -/
def Signal.diagnostic (signal : Signal) : String :=
  Text.record "StopSignal" [("name", Text.quoted signal.name), ("resolved", "false")]

/-! ### Sorted names -/

/-- Texts in the order of their code points. -/
def sortedNames (names : List String) : List String :=
  names.mergeSort fun first second => decide (first ≤ second)

/-! ### The waiting list -/

/-- What a `StopSignal` shares with its barrier: the names still open, `pending`, and the news that
arrived and was not yet taken, the channel between them. -/
structure WaitingList where
  unresolved : List String := []
  arrived : List Arrival := []
  deriving DecidableEq

namespace WaitingList

/-- Puts a name on the list; a name stands there once. -/
def enter (list : WaitingList) (name : String) : WaitingList :=
  if name ∈ list.unresolved then list else { list with unresolved := list.unresolved ++ [name] }

/-- Takes a name off the list and notes how its signal ended. -/
def resolve (list : WaitingList) (arrival : Arrival) : WaitingList :=
  { unresolved := list.unresolved.filter (· ≠ arrival.name), arrived := list.arrived ++ [arrival] }

/-- The open names in order. -/
def pending (list : WaitingList) : List String :=
  sortedNames list.unresolved

end WaitingList

end PhasedLifecycle
