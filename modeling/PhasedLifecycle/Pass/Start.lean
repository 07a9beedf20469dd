/-
This file defines the start pass. A component starts after the components it depends on, wherever
those stand; the phases, in ascending order, only decide where the pass begins to follow
dependencies. The first component that refuses to start ends the pass, and what was started before
stays started.
-/

import PhasedLifecycle.Pass.Group

namespace PhasedLifecycle

/-- A start under way: the components whose turn has not come, and the failure that ended it. It is what
`do_start` is handed and returns. -/
structure Starting where
  left : WorkingSet
  failure : Option LifecycleError := none
  deriving DecidableEq

namespace Starting

/-- Starts a component and waits for the end of the call. -/
def launch (name : String) (component : Component) (starting : Starting) : Pass Starting := do
  Pass.note (.starting name component.kind)
  match ← Pass.ask (.start component) with
  | some reason => return { starting with failure := some (.startFailed name reason) }
  | none =>
    Pass.note (.started name)
    return starting

/-- The turn of one component, after those it depends on. -/
def turn (autoOnly : Bool) (name : String) (component : Component) (starting : Starting) :
    Pass Starting := do
  if ← Pass.ask (.isRunning component) then return starting
  if ← component.isWanted autoOnly then starting.launch name component
  else return starting

/-- Starts what a name stands for, if its turn has not come yet, after everything it depends on:
`do_start`. Each step down takes a name out of the working set, so a depth of its size is enough. -/
def visit (autoOnly : Bool) : Nat → Starting → String → Pass Starting
  | 0, starting, _ => return starting
  | depth + 1, starting, name =>
    match starting.failure, starting.left.get? name with
    | none, some component => do
      let dependencies ← Pass.ask (.dependencies name)
      let starting ← dependencies.foldlM (visit autoOnly depth)
        { starting with left := starting.left.erase name }
      if starting.failure.isSome then return starting
      turn autoOnly name component starting
    | _, _ => return starting

/-- Starts what a name stands for, after everything it depends on. -/
def start (autoOnly : Bool) (starting : Starting) (name : String) : Pass Starting :=
  visit autoOnly starting.left.size starting name

end Starting

/-- Starts the members of a group, in ascending order of their phases: `start` of a `LifecycleGroup`. -/
def Group.start (group : Group) (left : WorkingSet) : Pass (Group × Starting) := do
  if group.members.isEmpty then return (group, { left })
  Pass.note (.phaseStarting group.phase)
  let group ← group.ascending
  let starting ← group.members.foldlM
    (fun starting member => starting.start group.autoOnly member.name) { left }
  return (group, starting)

/-- Starts groups one after the other, as long as none fails. -/
def startGroups (groups : List Group) (starting : Starting) : Pass Starting :=
  groups.foldlM (fun (starting : Starting) group => do
      if starting.failure.isSome then return starting
      Pass.note (.phaseOpened group.phase group.members.length)
      return (← group.start starting.left).2)
    starting

/-- Starts the components of a snapshot, phase by phase: `start_components`. -/
def startPass (snapshot : List Member) (timeout : Nat) (autoOnly : Bool) :
    Pass (Except LifecycleError Unit) := do
  let groups ← groupSnapshot snapshot timeout autoOnly
  let starting ← startGroups groups { left := WorkingSet.ofList snapshot }
  match starting.failure with
  | some error => return .error error
  | none => return .ok ()

end PhasedLifecycle
