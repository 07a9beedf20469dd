/-
This file gathers the components of a snapshot into groups, one for each phase. A group holds its
members in the order of the snapshot until its own pass begins; then they stand in the order of
the phases that they answer at that moment, and members of one phase keep their order.
-/

import PhasedLifecycle.Pass
import PhasedLifecycle.Pass.WorkingSet

namespace PhasedLifecycle

/-- The members of one phase: a `LifecycleGroup`. -/
structure Group where
  phase : Int
  /-- How long the end of the phase's stop is awaited, in milliseconds. -/
  timeout : Nat
  /-- Whether only components that start by themselves are started. -/
  autoOnly : Bool
  members : List Member := []
  deriving DecidableEq

namespace Group

/-- The group with one more member. -/
def add (group : Group) (member : Member) : Group :=
  { group with members := group.members ++ [member] }

/-- The number of members that stop in the background. -/
def smartCount (group : Group) : Nat :=
  group.members.countP (·.component.isSmart)

/-- The members with the phases they answer. -/
def phases (group : Group) : Pass (List (Int × Member)) :=
  group.members.mapM fun member => return (← member.component.phase, member)

/-- The group with its members in ascending order of the phases they answer. -/
def ascending (group : Group) : Pass Group := do
  let phases ← group.phases
  let sorted := phases.mergeSort fun first second => first.1 ≤ second.1
  return { group with members := sorted.map (·.2) }

/-- The group with its members in descending order of the phases they answer. -/
def descending (group : Group) : Pass Group := do
  let phases ← group.phases
  let sorted := phases.mergeSort fun first second => second.1 ≤ first.1
  return { group with members := sorted.map (·.2) }

end Group

/-! ### The groups of a snapshot -/

/-- The groups in ascending order of their phases, with a member added to the group of a phase. -/
def addToGroups (empty : Group) (member : Member) : List Group → List Group
  | [] => [empty.add member]
  | group :: groups =>
    if empty.phase < group.phase then empty.add member :: group :: groups
    else if empty.phase = group.phase then group.add member :: groups
    else group :: addToGroups empty member groups

/-- Adds what a listed name stands for to the group of its phase, if the pass is to have it. -/
def gather (set : WorkingSet) (timeout : Nat) (autoOnly : Bool) (groups : List Group)
    (listed : Member) : Pass (List Group) :=
  match set.get? listed.name with
  | none => return groups
  | some component => do
    if ← component.isWanted autoOnly then
      let phase ← component.phase
      return addToGroups { phase, timeout, autoOnly } { name := listed.name, component } groups
    else return groups

/-- The groups of the snapshot, in ascending order of their phases (`build_groups`). Each name stands for
the last component listed under it, as often as it is listed; in an auto-startup pass, components that do
not start by themselves join no group. -/
def groupSnapshot (snapshot : List Member) (timeout : Nat) (autoOnly : Bool) :
    Pass (List Group) :=
  snapshot.foldlM (gather (WorkingSet.ofList snapshot) timeout autoOnly) []

end PhasedLifecycle
