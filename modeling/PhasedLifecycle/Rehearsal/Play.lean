/-
This file plays scripts: it makes the calls of actors, answers the questions of passes, and takes
steps. A step taken by an actor during a call may itself start passes, which call actors again. Each
call of an actor takes its steps only the first time, so nesting ends after as many levels as there
are actors and kinds of calls.
-/

import PhasedLifecycle.Rehearsal.World

namespace PhasedLifecycle.Rehearsal

/-- What takes a step. -/
abbrev Taker := Step → World → Result × World

namespace World

/-! ### The calls of actors -/

/-- Begins a call: counts it, notes it, and the first time takes the actor's steps. Returns the
number of the call. -/
def beginCall (take : Taker) (method : Method) (actor : Actor) (world : World) : Nat × World :=
  let number := actor.calls method + 1
  let world := (world.changeActor actor.id (·.count method)).note
    (.called world.clock method actor.id)
  if number = 1 then
    (number, (actor.hooks method).foldl (fun world step =>
      let (result, world) := take step world
      world.note (.hooked world.clock actor.id step result)) world)
  else (number, world)

/-- Goes through the script of a start or a stop; a reason tells that it failed. -/
def endCall (script : CallScript) (number : Nat) (id : String) (running : Bool) (world : World) :
    Option String × World :=
  let world := world.sleep script.duration
  let failing := script.failures.all (number ≤ ·)
  match script.ending, failing with
  | .idle, _ => (none, world)
  | .fail, true => (some script.reason, world)
  | .failChanged, true => (some script.reason, world.setRunning id running)
  | _, _ => (none, world.setRunning id running)

/-- Calls the start of an actor. -/
def callStart (take : Taker) (id : String) (world : World) : Option String × World :=
  match world.actor? id with
  | none => (none, world)
  | some actor =>
    let (number, world) := beginCall take .start actor (world.report actor.startScript.notices)
    world.endCall actor.startScript number id true

/-- Calls the stop of an actor. -/
def callStop (take : Taker) (id : String) (world : World) : Option String × World :=
  match world.actor? id with
  | none => (none, world)
  | some actor =>
    let (number, world) := beginCall take .stop actor (world.report actor.stopScript.notices)
    world.endCall actor.stopScript number id false

/-- Stops an actor in the foreground and completes the signal, unless the stop fails. -/
def stopThenComplete (take : Taker) (id : String) (signal : Signal) (world : World) :
    Option String × World :=
  match callStop take id world with
  | (some reason, world) => (some reason, world.resolve signal .abandoned)
  | (none, world) => (none, world.resolve signal .completed)

/-- Goes through the script of a background stop; a reason tells that the call failed. -/
def endStopAsync (take : Taker) (script : AsyncScript) (id : String) (signal : Signal)
    (world : World) : Option String × World :=
  let world := world.sleep script.duration
  let failure (failing : Bool) := if failing then some script.reason else none
  match script.ending with
  | .immediate => (none, (world.setRunning id false).resolve signal .completed)
  | .throughStop => stopThenComplete take id signal world
  | .delayed duration ending failing =>
    let task := { actor := id, signal, ending, notices := script.lateNotices : Task }
    (failure failing, { world with agenda := world.agenda.add (world.clock + duration) task })
  | .hold failing =>
    (failure failing,
      world.changeActor id fun actor => { actor with held := actor.held ++ [signal] })
  | .drop failing => (failure failing, world.resolve signal .abandoned)
  | .completeFailing =>
    (some script.reason, (world.setRunning id false).resolve signal .completed)
  | .completeRunning => (none, world.resolve signal .completed)

/-- Asks an actor to stop in the background. -/
def callStopAsync (take : Taker) (id : String) (signal : Signal) (world : World) :
    Option String × World :=
  match world.actor? id with
  | none => (none, world.resolve signal .abandoned)
  | some actor =>
    match actor.kind with
    | .smart =>
      let script := actor.stopAsyncScript
      let (_, world) := beginCall take .stopAsync actor (world.report script.notices)
      world.endStopAsync take script id signal
    | .plain | .phased | .smartDefault => stopThenComplete take id signal world

/-! ### Passes -/

/-- Answers a question of a pass that looks at a view. -/
def answer (take : Taker) (view : View) :
    (request : Request) → World → request.Answer × World
  | .dependencies name, world => (world.dependenciesOf name view, world)
  | .dependents name, world => (world.dependentsOf name view, world)
  | .isRunning component, world => (world.isRunning component.key, world)
  | .isAutoStartup component, world =>
    ((world.actor? component.key).all (·.answeredAuto), world)
  | .phase component, world =>
    (((world.actor? component.key).map (·.answeredPhase)).getD 0, world)
  | .start component, world => world.callStart take component.key
  | .stop component, world => world.callStop take component.key
  | .stopAsync component signal, world => world.callStopAsync take component.key signal
  | .barrierMark, world => (world.nextMark, { world with nextMark := world.nextMark + 1 })
  | .arrivals barrier, world => world.takeMail barrier
  | .now, world => (world.clock, world)
  | .nextArrival barrier deadline, world =>
    world.awaitMail barrier deadline world.agenda.entries.length
  | .note notice, world => ((), world.report [notice])

/-- Runs a pass in the world. -/
def conduct {Value : Type} (take : Taker) (view : View) (pass : Pass Value) (world : World) :
    Value × World :=
  pass.run (answer take view) world

/-- Lets a seat run a start pass: `start` of its processor, or what `on_refresh` runs. -/
def conductStart (take : Taker) (seat : Seat) (autoOnly : Bool) (world : World) :
    Except LifecycleError Unit × World :=
  let orchestrator := world.orchestrator seat
  if !orchestrator.isAttached then (.error Orchestrator.noRegistry, world)
  else
    let view := world.viewOf seat
    let pass := startPass (world.snapshot view) orchestrator.timeout autoOnly
    match world.conduct take view pass with
    | (.ok (), world) =>
      (.ok (), world.changeOrchestrator seat fun orchestrator =>
        { orchestrator with isRunning := true })
    | (.error error, world) => (.error error, world)

/-- Lets a seat run a stop pass: `stop` of its processor, or what `on_close` runs. -/
def conductStop (take : Taker) (seat : Seat) (world : World) :
    Except LifecycleError StopReport × World :=
  let orchestrator := world.orchestrator seat
  if !orchestrator.isAttached then (.error Orchestrator.noRegistry, world)
  else
    let view := world.viewOf seat
    let (report, world) :=
      world.conduct take view (stopPass (world.snapshot view) orchestrator.timeout)
    (.ok report, world.changeOrchestrator seat fun orchestrator =>
      { orchestrator with isRunning := false })

/-- Lets a seat start what starts by itself: `on_refresh` of its processor. -/
def conductRefresh (take : Taker) (seat : Seat) (world : World) :
    Except LifecycleError Unit × World :=
  let world := (world.mark seat (.entered .refresh)).report [.refreshPass]
  let (outcome, world) := world.conductStart take seat true
  (outcome, world.mark seat (.left .refresh))

/-- Lets a seat stop everything: `on_close` of its processor. -/
def conductClose (take : Taker) (seat : Seat) (world : World) :
    Except LifecycleError StopReport × World :=
  let world := (world.mark seat (.entered .close)).report [.closePass]
  let (outcome, world) := world.conductStop take seat
  (outcome, world.mark seat (.left .close))

theorem snd_conductRefresh (take : Taker) (seat : Seat) (world : World) :
    (world.conductRefresh take seat).2 =
      (((world.mark seat (.entered .refresh)).report [.refreshPass]).conductStart take seat true).2.mark
        seat (.left .refresh) := rfl

theorem snd_conductClose (take : Taker) (seat : Seat) (world : World) :
    (world.conductClose take seat).2 =
      (((world.mark seat (.entered .close)).report [.closePass]).conductStop take seat).2.mark
        seat (.left .close) := rfl

/-! ### Containers -/

/-- Builds a container; what the build did to a registry stays, unless the registry was new and the
build failed. -/
def build (script : BuildScript) (world : World) : Result × World :=
  let blueprint :=
    { members := script.roles.map world.member
      dependencies := script.dependencies
      settings := script.settings
      source := script.source
      validates := script.validates.getD true : Blueprint }
  let world := world.report (script.roles.map fun role => .componentAdded role.name)
  let built := blueprint.build (if script.fresh then {} else world.presentRegistry)
  let world := world.report built.notices
  let number := if script.fresh then world.registries.length else world.registry
  match built.outcome with
  | .error error =>
    (.infrastructureError error,
      if script.fresh then world else world.setRegistry number built.registry)
  | .ok container =>
    let world :=
      if script.fresh then { world with registries := world.registries ++ [built.registry] }
      else world.setRegistry number built.registry
    let orchestrator := { isAttached := true : Orchestrator }.setTimeout container.settings.timeout
    (.done,
      { world with
        registry := number
        view := .registry number
        housings := world.housings ++ [{ container, orchestrator, registry := number }] })

/-- Refreshes the container of a number: `refresh` of a `LifecycleContainer`. -/
def refresh (take : Taker) (number : Nat) (housing : Housing) (world : World) : Result × World :=
  match housing.container.beginRefresh world.instant (world.registryAt housing.registry).size with
  | .error error => (.infrastructureError error, world)
  | .ok container =>
    let began := world.clock
    let world := (world.changeContainer number fun _ => container).report [.refreshing]
    let (outcome, world) := world.conductRefresh take (.housing number)
    let elapsed := world.clock - began
    let running := world.runningMembers housing.registry
    let world := world.changeContainer number (·.finishRefresh elapsed running outcome)
    match outcome with
    | .ok () => (.done, world.report [.refreshed running elapsed])
    | .error error =>
      (.infrastructureError (.lifecycle error), world.report [.refreshFailed error])

/-- Closes the container of a number: `close` of a `LifecycleContainer`. -/
def close (take : Taker) (number : Nat) (housing : Housing) (world : World) : Result × World :=
  match housing.container.beginClose with
  | .error error => (.infrastructureError error, world)
  | .ok container =>
    let began := world.clock
    let world := (world.changeContainer number fun _ => container).report [.closing]
    let (outcome, world) := world.conductClose take (.housing number)
    let elapsed := world.clock - began
    let running := world.runningMembers housing.registry
    let world := world.changeContainer number
      (·.finishClose world.instant elapsed running outcome)
    match outcome with
    | .ok report =>
      let notices :=
        if report.isClean then [.closed]
        else [.closedUncleanly report.failures.length report.timeouts.length, .closed]
      (.report report, world.report notices)
    | .error error =>
      (.infrastructureError (.lifecycle error), world.report [.closeFailed error])

/-- Does something with the container of a number, or else the latest, if there is one. -/
def withHousing (world : World) (container : Option Nat) (action : Nat → Housing → Result × World) :
    Result × World :=
  let number := container.getD (world.housings.length - 1)
  match world.housings[number]? with
  | some housing => action number housing
  | none => (.noContainer, world)

/-! ### Parts of a pass -/

/-- Starts the group of the bench. -/
def startGroup (take : Taker) (world : World) : Result × World :=
  let bench := world.bench
  let ((group, starting), world) := world.conduct take world.view (bench.group.start bench.left)
  let world := { world with bench := { world.bench with group, left := starting.left } }
  let result := match starting.failure with
    | some error => Result.lifecycleError error
    | none => .done
  (.traversal result (sortedNames starting.left.names), world)

/-- Stops the group of the bench, adding to the report of the bench. -/
def stopGroup (take : Taker) (world : World) : Result × World :=
  let bench := world.bench
  let ((group, left, report), world) :=
    world.conduct take world.view (bench.group.stop bench.left bench.report)
  let world := { world with bench := { group, left, report } }
  (.traversal (.report report) (sortedNames left.names), world)

/-- Starts one name and what it depends on, out of the working set of the bench. -/
def startName (take : Taker) (name : String) (autoOnly : Bool) (world : World) :
    Result × World :=
  let (starting, world) := world.conduct take world.view
    (Starting.start autoOnly { left := world.bench.left } name)
  let world := { world with bench := { world.bench with left := starting.left } }
  let result := match starting.failure with
    | some error => Result.lifecycleError error
    | none => .done
  (.traversal result (sortedNames starting.left.names), world)

/-- A stop of one name and what depends on it, in front of a barrier with a count of its own, and
the wait that follows. -/
def stopNamePass (bench : Workbench) (name : String) (members : List String)
    (count patience : Nat) : Pass (Stopping × BarrierOutcome) := do
  let barrier := { mark := ← Pass.ask .barrierMark, remaining := count : Barrier }
  let stopping ← Stopping.stop members { left := bench.left, barrier, report := bench.report } name
  return (stopping, ← stopping.barrier.await patience)

/-- Stops one name and what depends on it, out of the working set of the bench. -/
def stopName (take : Taker) (name : String) (members : List String) (count patience : Nat)
    (world : World) : Result × World :=
  let ((stopping, outcome), world) :=
    world.conduct take world.view (stopNamePass world.bench name members count patience)
  let world :=
    { world with
      bench := { world.bench with left := stopping.left, report := stopping.report } }
  (.traversal (.barrierRun stopping.barrier.diagnostic outcome)
    (sortedNames stopping.left.names), world)

/-! ### Registries and actors -/

/-- Registers a component in the present registry. -/
def register (role : Role) (world : World) : Result × World :=
  let component := world.component role.actor
  match world.presentRegistry.register role.name component with
  | .error error => (.dependencyError error, world)
  | .ok registry =>
    (.done, (world.setRegistry world.registry registry).report
      [.registered role.name component.capability.label])

/-- Takes a component out of the present registry. -/
def unregister (name : String) (world : World) : Result × World :=
  match world.presentRegistry.unregister name with
  | (none, _) => (.nothing, world)
  | (some component, registry) =>
    (.text component.capability.label,
      (world.setRegistry world.registry registry).report [.unregistered name])

/-- Records a dependency in the present registry. -/
def depend (dependent dependency : String) (world : World) : World :=
  let registry := world.presentRegistry
  if registry.isRecorded dependent dependency then world
  else (world.setRegistry world.registry (registry.record dependent dependency)).report
    [.dependencyRecorded dependent dependency]

/-- Looks for circles in the present registry. -/
def validate (world : World) : Result × World :=
  match world.presentRegistry.circle? with
  | none => (.done, world)
  | some circle =>
    (.dependencyError (.circular circle.chain), world.report [.cycleFound circle.chain])

/-- The row of a member in a roster. -/
def rosterRow (world : World) (member : Member) : RosterRow :=
  let actor := world.actor? member.component.key
  { name := member.name
    kind := member.component.capability.label
    phase := (actor.map (·.answeredPhase)).getD 0
    auto := actor.all (·.answeredAuto)
    running := actor.any (·.running) }

/-- Resolves all signals that an actor holds. -/
def release (id : String) (drop : Bool) (world : World) : Result × World :=
  let held := ((world.actor? id).map (·.held)).getD []
  let world := world.changeActor id fun actor => { actor with held := [], running := false }
  let ending := if drop then Ending.abandoned else .completed
  (.number held.length, held.foldl (fun world signal => world.resolve signal ending) world)

/-- The outcome of a call as the result of a step. -/
def callResult : Option String × World → Result × World
  | (none, world) => (.done, world)
  | (some reason, world) => (.componentError reason, world)

/-- The outcome of a start pass as the result of a step. -/
def startResult : Except LifecycleError Unit × World → Result × World
  | (.ok (), world) => (.done, world)
  | (.error error, world) => (.lifecycleError error, world)

/-- The outcome of a stop pass as the result of a step. -/
def stopResult : Except LifecycleError StopReport × World → Result × World
  | (.ok report, world) => (.report report, world)
  | (.error error, world) => (.lifecycleError error, world)

/-- A part of the world with all its fields. -/
def inspect (world : World) : Subject → Result
  | .registry => .text world.presentRegistry.diagnostic
  | .orchestrator => .text world.setUp.diagnostic
  | .group =>
    let group := world.bench.group
    .text (Text.record "LifecycleGroup"
      [("phase", toString group.phase), ("timeout", Text.duration group.timeout),
        ("auto_startup_only", toString group.autoOnly),
        ("members", Text.listing (group.members.map fun member =>
          Text.record "LifecycleGroupMember"
            [("name", Text.quoted member.name),
              ("component",
                ((world.actor? member.component.key).map (·.diagnostic)).getD "")])),
        ("smart_member_count", toString group.smartCount)])
  | .container =>
    match world.housings.getLast? with
    | none => .noContainer
    | some housing =>
      .text (Text.openRecord "LifecycleContainer"
        [("registry", (world.registryAt housing.registry).diagnostic),
          ("properties", housing.container.settings.diagnostic)])
  | .actor id => .text (((world.actor? id).map (·.diagnostic)).getD "")

/-! ### Steps -/

/-- Takes a step, given what takes the steps of actors. -/
def takeWith (take : Taker) : Taker
  | .register role, world => world.register role
  | .unregister name, world => world.unregister name
  | .depend dependent dependency, world => (.nothing, world.depend dependent dependency)
  | .registerDependent name dependent, world => (.nothing, world.depend dependent name)
  | .size, world => (.size world.presentRegistry.size, world)
  | .validate, world => world.validate
  | .contains name, world => (.flag ((world.snapshot world.view).any (·.name == name)), world)
  | .dependencies name, world => (.names (world.dependenciesOf name world.view), world)
  | .dependents name, world => (.names (world.dependentsOf name world.view), world)
  | .roster, world => (.roster ((world.snapshot world.view).map world.rosterRow), world)
  | .graph, world =>
    (.graph ((world.snapshot world.view).map fun member =>
      { name := member.name, dependencies := world.dependenciesOf member.name world.view }), world)
  | .set id running phase auto, world =>
    (.nothing, world.changeActor id fun actor =>
      { actor with
        running := running.getD actor.running
        phase := phase.getD actor.phase
        auto := auto.getD actor.auto })
  | .release id drop, world => world.release id drop
  | .call id .start, world => callResult (world.callStart take id)
  | .call id .stop, world => callResult (world.callStop take id)
  | .call _ .stopAsync, world => (.nothing, world)
  | .sleep duration, world => (.nothing, world.sleep duration)
  | .start, world => startResult (world.conductStart take world.seat false)
  | .refreshPass, world => startResult (world.conductRefresh take world.seat)
  | .stop, world => stopResult (world.conductStop take world.seat)
  | .closePass, world => stopResult (world.conductClose take world.seat)
  | .isRunning, world => (.flag (world.orchestrator world.seat).isRunning, world)
  | .attach, world =>
    (.nothing,
      { world with setUp := { world.setUp with isAttached := true }, setUpView := world.view })
  | .setTimeout timeout, world => (.nothing, { world with setUp := world.setUp.setTimeout timeout })
  | .timeout, world => (.number world.setUp.timeout, world)
  | .build script, world => world.build script
  | .refresh container, world =>
    world.withHousing container fun number housing => world.refresh take number housing
  | .close container, world =>
    world.withHousing container fun number housing => world.close take number housing
  | .status, world => world.withHousing none fun _ housing =>
    (.status housing.container.status housing.orchestrator.isRunning, world)
  | .metrics, world => world.withHousing none fun _ housing =>
    (.metrics housing.container.metrics, world)
  | .lastReport, world => world.withHousing none fun _ housing =>
    ((housing.container.lastReport.map Result.report).getD .nothing, world)
  | .settings, world => world.withHousing none fun _ housing =>
    (.number housing.container.settings.timeout, world)
  | .newGroup phase timeout autoOnly, world =>
    (.nothing, { world with bench := { world.bench with group := { phase, timeout, autoOnly } } })
  | .addMember role, world =>
    let group := world.bench.group.add (world.member role)
    (.number group.phase, { world with bench := { world.bench with group } })
  | .workingSet roles, world =>
    (.nothing,
      { world with
        bench := { world.bench with left := WorkingSet.ofList (roles.map world.member) } })
  | .startGroup, world => world.startGroup take
  | .stopGroup, world => world.stopGroup take
  | .startName name autoOnly, world => world.startName take name autoOnly
  | .stopName name members count patience, world =>
    world.stopName take name members count patience
  | .report, world => (.report world.bench.report, world)
  | .newReport, world => (.nothing, { world with bench := { world.bench with report := {} } })
  | .inspect subject, world => (world.inspect subject, world)
  | .unknown name, world => (.unknownStep name, world)

/-- Takes a step in which actors' own steps nest to a depth. -/
def takeStep : Nat → Taker
  | 0 => fun _ world => (.nothing, world)
  | depth + 1 => takeWith (takeStep depth)

/-- Takes a step of the script. -/
def take (step : Step) (world : World) : Result × World :=
  takeStep (3 * world.actors.length + 1) step world

end World

/-! ### Whole rehearsals -/

/-- What a rehearsal begins with. -/
structure SetUp where
  actors : List Actor := []
  roles : List Role := []
  edges : List (String × String) := []
  /-- A registry that never changes: its roles, what names depend on, and what depends on them. -/
  fixed : Option (List Role × NameTable × NameTable) := none
  detached : Bool := false

/-- The world at the beginning: its components are registered and its dependencies recorded. -/
def SetUp.world (setUp : SetUp) : World :=
  let bare := { actors := setUp.actors : World }
  let world := match setUp.fixed with
    | none => bare
    | some (roles, dependencyTable, dependentTable) =>
      { bare with
        fixed := { members := roles.map bare.member, dependencyTable, dependentTable }
        view := .fixed
        setUpView := .fixed }
  let world := { world with setUp := { isAttached := !setUp.detached } }
  let world := setUp.roles.foldl (fun world role => (world.register role).2) world
  setUp.edges.foldl (fun world (dependent, dependency) => world.depend dependent dependency) world

/-- What was seen of one step. -/
structure Seen where
  result : Result
  events : List Event
  running : List String
  clock : Nat

/-- Takes the steps of a script one by one, and tells what was seen of each. -/
def play (steps : List Step) (world : World) : List Seen × World :=
  let (seen, world) := steps.foldl (fun (seen, world) step =>
      let (result, world) := World.take step { world with events := [] }
      ({ result, events := world.events.reverse, running := world.running,
         clock := world.clock : Seen } :: seen, world))
    (([] : List Seen), world)
  (seen.reverse, world)

end PhasedLifecycle.Rehearsal
