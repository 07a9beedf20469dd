/-
This file holds what is still to happen on a virtual clock: tasks with the instants at which they
are due. Tasks are taken in the order of these instants, and of two due at once the one entered
first.
-/

namespace PhasedLifecycle.Rehearsal

/-- Tasks with the instants at which they are due. -/
structure Agenda (Task : Type) where
  entries : List (Nat × Task) := []

namespace Agenda

variable {Task : Type}

/-- Enters a task. -/
def add (agenda : Agenda Task) (due : Nat) (task : Task) : Agenda Task :=
  { entries := agenda.entries ++ [(due, task)] }

/-- The earliest entry of a list, with the others in order. -/
def earliest? : List (Nat × Task) → Option ((Nat × Task) × List (Nat × Task))
  | [] => none
  | entry :: entries =>
    match earliest? entries with
    | none => some (entry, [])
    | some (best, others) =>
      if entry.1 ≤ best.1 then some (entry, entries) else some (best, entry :: others)

/-- Takes the earliest task, if it is due at an instant or before. -/
def take? (agenda : Agenda Task) (instant : Nat) : Option (Nat × Task × Agenda Task) :=
  match earliest? agenda.entries with
  | none => none
  | some ((due, task), others) =>
    if due ≤ instant then some (due, task, { entries := others }) else none

end Agenda

end PhasedLifecycle.Rehearsal
