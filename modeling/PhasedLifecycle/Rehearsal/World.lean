/-
This file holds the world of a rehearsal: actors, registries and containers under a virtual clock
that stands still while code runs and jumps while the code waits. Background stops are entries of
an agenda and come to their end only during a wait.

A rehearsal stands for the program around the library: for the components, which are actors with scripts,
and for whoever calls a processor or a container. Its own types are those of its scripts.
-/

import PhasedLifecycle.Orchestrator
import PhasedLifecycle.Pass.Start
import PhasedLifecycle.Pass.Stop
import PhasedLifecycle.Rehearsal.Actor
import PhasedLifecycle.Rehearsal.Agenda

namespace PhasedLifecycle.Rehearsal

/-! ### The parts of the world -/

/-- The end of a delayed background stop. -/
structure Task where
  actor : String
  signal : Signal
  ending : Ending
  notices : List Notice

/-- A registry that never changes: a snapshot in which names may repeat, and two tables. -/
structure FixedRegistry where
  members : List Member := []
  dependencyTable : NameTable := {}
  dependentTable : NameTable := {}

/-- The registry that passes look at. -/
inductive View where
  | fixed
  | registry (number : Nat)
  deriving DecidableEq

/-- What a `LifecycleContainer` holds: a container with its orchestrator and the number of its registry. -/
structure Housing where
  container : Container
  orchestrator : Orchestrator
  registry : Nat

/-- Who orchestrates: the `DefaultLifecycleProcessor` of the set-up, or the one of a container. -/
inductive Seat where
  | setUp
  | housing (number : Nat)
  deriving DecidableEq

/-- The passes that a container asks its orchestrator for, when it is refreshed and when it is closed. -/
inductive ContainerPass where
  | refresh
  | close
  deriving DecidableEq

/-- A milestone of a seat: its container takes on a status, or its orchestrator
enters or leaves a pass of a container. -/
inductive Milestone where
  | became (status : ContainerStatus)
  | entered (pass : ContainerPass)
  | left (pass : ContainerPass)
  deriving DecidableEq

/-- The status that a container takes on at the milestone, if it does. -/
def Milestone.status? : Milestone → Option ContainerStatus
  | .became status => some status
  | .entered _ | .left _ => none

/-- The parts of a pass that a script uses by themselves: a `LifecycleGroup`, a working set, a report. -/
structure Workbench where
  group : Group := { phase := 0, timeout := 0, autoOnly := false }
  left : WorkingSet := {}
  report : StopReport := {}

/-- The world of a rehearsal. Notices, events and the history stand with the latest first. -/
structure World where
  actors : List Actor := []
  clock : Nat := 0
  agenda : Agenda Task := {}
  /-- The resolutions not yet handed out. -/
  mail : List Resolution := []
  nextMark : Nat := 0
  registries : List Registry := [{}]
  registry : Nat := 0
  fixed : FixedRegistry := {}
  view : View := .registry 0
  setUp : Orchestrator := {}
  setUpView : View := .registry 0
  housings : List Housing := []
  bench : Workbench := {}
  notices : List Notice := []
  events : List Event := []
  /-- What containers and their orchestrators have come to, each milestone with its seat. -/
  history : List (Seat × Milestone) := []

namespace World

/-! ### Looking around -/

/-- The actor of an id. -/
def actor? (world : World) (id : String) : Option Actor :=
  world.actors.find? (·.id == id)

/-- The component of an id; one without an actor is plain. -/
def component (world : World) (id : String) : Component :=
  match world.actor? id with
  | some actor => actor.component
  | none => { key := id, capability := .plain }

/-- The member that a role stands for. -/
def member (world : World) (role : Role) : Member :=
  { name := role.name, component := world.component role.actor }

/-- Whether the actor of an id runs. -/
def isRunning (world : World) (id : String) : Bool :=
  (world.actor? id).any (·.running)

/-- The ids of the running actors. -/
def running (world : World) : List String :=
  (world.actors.filter (·.running)).map (·.id)

/-- The registry of a number. -/
def registryAt (world : World) (number : Nat) : Registry :=
  world.registries.getD number {}

/-- The present registry. -/
def presentRegistry (world : World) : Registry :=
  world.registryAt world.registry

/-- The components of a view. -/
def snapshot (world : World) : View → List Member
  | .fixed => world.fixed.members
  | .registry number => (world.registryAt number).members

/-- What a name depends on in a view. -/
def dependenciesOf (world : World) (name : String) : View → List String
  | .fixed => world.fixed.dependencyTable.under name
  | .registry number => (world.registryAt number).dependenciesOf name

/-- What depends on a name in a view. -/
def dependentsOf (world : World) (name : String) : View → List String
  | .fixed => world.fixed.dependentTable.under name
  | .registry number => (world.registryAt number).dependentsOf name

/-- The number of running components of a registry. -/
def runningMembers (world : World) (number : Nat) : Nat :=
  (world.registryAt number).members.countP fun member => world.isRunning member.component.key

/-- The instant on the calendar that the clock shows. -/
def instant (world : World) : Instant :=
  Instant.ofMilliseconds world.clock

/-- The seat of the latest container or, before the first, of the set-up. -/
def seat (world : World) : Seat :=
  match world.housings.length with
  | 0 => .setUp
  | count + 1 => .housing count

/-- The orchestrator of a seat. -/
def orchestrator (world : World) : Seat → Orchestrator
  | .setUp => world.setUp
  | .housing number => ((world.housings[number]?).map (·.orchestrator)).getD {}

/-- The view of a seat. -/
def viewOf (world : World) : Seat → View
  | .setUp => world.setUpView
  | .housing number => .registry (((world.housings[number]?).map (·.registry)).getD 0)

/-- What the history tells of a seat, in the order in which it came. -/
def milestonesOf (world : World) (seat : Seat) : List Milestone :=
  ((world.history.filter (·.1 == seat)).map (·.2)).reverse

/-- The statuses that the container of a number has taken on, in order. -/
def statusesOf (world : World) (number : Nat) : List ContainerStatus :=
  (world.milestonesOf (.housing number)).filterMap Milestone.status?

/-! ### Changing it -/

/-- Marks a milestone of a seat in the history. -/
def mark (world : World) (seat : Seat) (milestone : Milestone) : World :=
  { world with history := (seat, milestone) :: world.history }

theorem milestonesOf_mark (world : World) (seat : Seat) (milestone : Milestone) :
    (world.mark seat milestone).milestonesOf seat = world.milestonesOf seat ++ [milestone] := by
  simp [mark, milestonesOf]

theorem milestonesOf_mark_of_ne {seat other : Seat} (different : other ≠ seat) (world : World)
    (milestone : Milestone) :
    (world.mark other milestone).milestonesOf seat = world.milestonesOf seat := by
  simp [mark, milestonesOf, different]

theorem statusesOf_mark (world : World) (number : Nat) (milestone : Milestone) :
    (world.mark (.housing number) milestone).statusesOf number =
      world.statusesOf number ++ milestone.status?.toList := by
  rw [statusesOf, milestonesOf_mark, List.filterMap_append]
  cases milestone <;> rfl

/-- Reports facts. -/
def report (world : World) (notices : List Notice) : World :=
  { world with notices := notices.reverse ++ world.notices }

/-- Notes an event. -/
def note (world : World) (event : Event) : World :=
  { world with events := event :: world.events }

/-- Changes the actor of an id. -/
def changeActor (world : World) (id : String) (change : Actor → Actor) : World :=
  { world with
    actors := world.actors.map fun actor => if actor.id == id then change actor else actor }

/-- Sets whether the actor of an id runs. -/
def setRunning (world : World) (id : String) (running : Bool) : World :=
  world.changeActor id fun actor => { actor with running }

/-- Replaces the registry of a number. -/
def setRegistry (world : World) (number : Nat) (registry : Registry) : World :=
  { world with registries := world.registries.set number registry }

/-- Changes the orchestrator of a seat. -/
def changeOrchestrator (world : World) (seat : Seat) (change : Orchestrator → Orchestrator) :
    World :=
  match seat with
  | .setUp => { world with setUp := change world.setUp }
  | .housing number =>
    { world with
      housings := world.housings.modify number fun housing =>
        { housing with orchestrator := change housing.orchestrator } }

/-- Changes the container of a number, and records the status that it takes on. -/
def changeContainer (world : World) (number : Nat) (change : Container → Container) : World :=
  match world.housings[number]? with
  | none => world
  | some housing =>
    let container := change housing.container
    { world with housings := world.housings.set number { housing with container } }.mark
      (.housing number) (.became container.status)

/-- Resolves a signal. -/
def resolve (world : World) (signal : Signal) (ending : Ending) : World :=
  { world with mail := world.mail ++ [{ signal, ending, instant := world.clock }] }

/-! ### Time -/

/-- Brings one background stop to its end. -/
def perform (world : World) (due : Nat) (task : Task) : World :=
  let world := { world with clock := due }.setRunning task.actor false
  ((world.note (.ended due task.ending task.actor)).report task.notices).resolve
    task.signal task.ending

/-- Performs the tasks due until an instant, in order. Performing a task enters none, so as many
turns as there are entries are enough. -/
def performUntil (instant : Nat) : Nat → World → World
  | 0, world => world
  | turns + 1, world =>
    match world.agenda.take? instant with
    | none => world
    | some (due, task, agenda) =>
      performUntil instant turns ({ world with agenda }.perform due task)

/-- Waits for a time; no time at all is no wait. -/
def sleep (world : World) (duration : Nat) : World :=
  if duration = 0 then world
  else
    let wake := world.clock + duration
    { performUntil wake world.agenda.entries.length world with clock := wake }

/-- Hands out the resolutions for a barrier. -/
def takeMail (world : World) (barrier : Nat) : List Arrival × World :=
  let (mine, others) := world.mail.partition (·.signal.barrier == barrier)
  (mine.map (·.arrival), { world with mail := others })

/-- Hands out the first resolution for a barrier. -/
def takeFirstMail (world : World) (barrier : Nat) : Option (Arrival × World) :=
  (world.mail.find? (·.signal.barrier == barrier)).map fun resolution =>
    (resolution.arrival, { world with mail := world.mail.eraseP (·.signal.barrier == barrier) })

/-- Waits for the next resolution for a barrier, until a deadline. As many turns as there are tasks
are enough. -/
def awaitMail (barrier deadline : Nat) (turns : Nat) (world : World) : Option Arrival × World :=
  match world.takeFirstMail barrier with
  | some (arrival, world) => (some arrival, world)
  | none =>
    if deadline ≤ world.clock then (none, world)
    else match turns, world.agenda.take? deadline with
      | turns + 1, some (due, task, agenda) =>
        awaitMail barrier deadline turns ({ world with agenda }.perform due task)
      | _, _ => (none, { world with clock := deadline })

end World

end PhasedLifecycle.Rehearsal
