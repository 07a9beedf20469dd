/-
This file defines the stop pass. A component is asked to stop after the components that depend on
it, wherever those stand; the phases, in descending order, only decide where the pass begins to
follow dependents, and at the end of each phase a barrier waits for the signals given out during
it. A failing stop is recorded and hinders nothing.
-/

import PhasedLifecycle.Pass.Group
import PhasedLifecycle.Report

namespace PhasedLifecycle

/-- The reason on record for a component that dropped its signal. -/
def droppedReason : String := "停止信号在完成前被丢弃"

/-- A stop under way: the components whose turn has not come, the barrier of the phase, and what is on
record so far. It is the `StopContext` of `do_stop`. -/
structure Stopping where
  left : WorkingSet
  barrier : Barrier
  report : StopReport := {}
  deriving DecidableEq

namespace Stopping

/-- Hands the resolutions that have happened to the barrier. -/
def collect (stopping : Stopping) : Pass Stopping := do
  let arrivals ← Pass.ask (.arrivals stopping.barrier.mark)
  return { stopping with barrier := arrivals.foldl Barrier.resolve stopping.barrier }

/-- Records a failing stop. -/
def fail (name reason : String) (stopping : Stopping) : Pass Stopping := do
  Pass.note (.stopFailed name reason)
  return { stopping with report := stopping.report.recordFailure name reason }

/-- Stops a running component and waits for the end of the call. -/
def stopNow (name : String) (component : Component) (stopping : Stopping) : Pass Stopping := do
  Pass.note (.stopping name component.kind)
  let answer ← Pass.ask (.stop component)
  let stopping ← stopping.collect
  match answer with
  | some reason => stopping.fail name reason
  | none =>
    Pass.note (.stopped name)
    return { stopping with report := stopping.report.recordStopped name }

/-- Asks a running component to stop in the background. A component from outside the phase is
awaited in addition to the members, which the barrier awaits from the beginning. -/
def requestStop (foreign : Bool) (name : String) (component : Component) (stopping : Stopping) :
    Pass Stopping := do
  Pass.note (.stopRequested name component.kind)
  let barrier := if foreign then stopping.barrier.extend else stopping.barrier
  let answer ← Pass.ask (.stopAsync component (barrier.signal name))
  let stopping ← { stopping with barrier := barrier.issue name : Stopping }.collect
  match answer with
  | some reason => stopping.fail name reason
  | none => return stopping

/-- The turn of one component, after those that depend on it. -/
def turn (members : List String) (name : String) (component : Component) (stopping : Stopping) :
    Pass Stopping := do
  let foreign := !members.contains name
  if ← Pass.ask (.isRunning component) then
    if component.isSmart then stopping.requestStop foreign name component
    else stopping.stopNow name component
  else if component.isSmart && !foreign then
    return { stopping with barrier := stopping.barrier.countDown }
  else return stopping

/-- Stops what a name stands for, if its turn has not come yet, after everything that depends on it:
`do_stop`. Each step down takes a name out of the working set, so a depth of its size is enough. -/
def visit (members : List String) : Nat → Stopping → String → Pass Stopping
  | 0, stopping, _ => return stopping
  | depth + 1, stopping, name =>
    match stopping.left.get? name with
    | none => return stopping
    | some component => do
      let dependents ← Pass.ask (.dependents name)
      let stopping ← dependents.foldlM (visit members depth)
        { stopping with left := stopping.left.erase name }
      turn members name component stopping

/-- Stops what a name stands for, after everything that depends on it. -/
def stop (members : List String) (stopping : Stopping) (name : String) : Pass Stopping :=
  visit members stopping.left.size stopping name

end Stopping

/-! ### The wait at the end of a phase -/

/-- Takes arrivals until the count is zero or the deadline has passed. Each further question
brings the count down by one, so as many as are awaited are enough. -/
def Wait.run (deadline : Nat) : Nat → Wait → Pass BarrierOutcome
  | 0, wait => return wait.finish false
  | questions + 1, wait => do
    let wait := wait.takeArrived
    if wait.isOver then return wait.finish false
    match ← Pass.ask (.nextArrival wait.barrier.mark deadline) with
    | none => return wait.finish true
    | some arrival =>
      Wait.run deadline questions { wait with barrier := wait.barrier.resolve arrival }

/-- Waits, at most for a time in milliseconds, until as many signals are resolved as are awaited: `wait`
of a `ShutdownBarrier`. -/
def Barrier.await (barrier : Barrier) (timeout : Nat) : Pass BarrierOutcome := do
  let now ← Pass.ask .now
  Wait.run (now + timeout) (barrier.remaining + 1) { barrier }

/-! ### Groups and passes -/

/-- Comes to one member of a group. One whose turn came in an earlier phase, so that it was not left
when the group began, is not awaited again. -/
def Group.reach (group : Group) (left : WorkingSet) (stopping : Stopping) (member : Member) :
    Pass Stopping :=
  if left.contains member.name then stopping.stop (group.members.map (·.name)) member.name
  else if member.component.isSmart then
    return { stopping with barrier := stopping.barrier.countDown }
  else return stopping

/-- Comes to all members of a group, in front of a new barrier that awaits the smart ones. -/
def Group.traverse (group : Group) (mark : Nat) (left : WorkingSet) (report : StopReport) :
    Pass Stopping :=
  group.members.foldlM (group.reach left)
    { left, barrier := { mark, remaining := group.smartCount }, report }

/-- Puts on record that a signal was dropped, unless a failure of its name is on record already. -/
def StopReport.recordDropped (report : StopReport) (name : String) : Pass StopReport := do
  if report.hasFailure name then return report
  Pass.note (.signalDropped name)
  return report.recordFailure name droppedReason

/-- Puts on record what the wait at the end of a phase saw. -/
def Group.settle (group : Group) (outcome : BarrierOutcome) (report : StopReport) :
    Pass StopReport := do
  let report := outcome.completed.foldl StopReport.recordStopped report
  let report ← outcome.abandoned.foldlM StopReport.recordDropped report
  if outcome.timedOut && !outcome.pending.isEmpty then
    Pass.note (.phaseTimedOut group.phase group.timeout outcome.pending)
    return report.recordTimeout
      { phase := group.phase, timeout := group.timeout, pending := outcome.pending }
  return report

/-- Begins the stop of a group: its members in descending order of their phases, and a mark for its
barrier. -/
def Group.beginStop (group : Group) : Pass (Group × Nat) := do
  Pass.note (.phaseStopping group.phase)
  let group ← group.descending
  return (group, ← Pass.ask .barrierMark)

/-- Stops the members of a group, in descending order of their phases, and waits for the signals given
out: `stop` of a `LifecycleGroup`. -/
def Group.stop (group : Group) (left : WorkingSet) (report : StopReport) :
    Pass (Group × WorkingSet × StopReport) := do
  if group.members.isEmpty then return (group, left, report)
  let (group, mark) ← group.beginStop
  let stopping ← group.traverse mark left report
  let outcome ← stopping.barrier.await group.timeout
  let report ← group.settle outcome stopping.report
  return (group, stopping.left, report)

/-- Stops groups one after the other. -/
def stopGroups (groups : List Group) (left : WorkingSet) (report : StopReport) :
    Pass (WorkingSet × StopReport) :=
  groups.foldlM (fun (stopped : WorkingSet × StopReport) group => do
      Pass.note (.phaseOpened group.phase group.members.length)
      return (← group.stop stopped.1 stopped.2).2)
    (left, report)

/-- Stops the components of a snapshot, phase by phase: `stop_components`. -/
def stopPass (snapshot : List Member) (timeout : Nat) : Pass StopReport := do
  let groups ← groupSnapshot snapshot timeout false
  let stopped ← stopGroups groups.reverse (WorkingSet.ofList snapshot) {}
  return stopped.2

end PhasedLifecycle
