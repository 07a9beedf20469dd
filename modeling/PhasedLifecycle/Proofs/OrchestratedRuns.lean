/-
This file follows whole sequences of passes. Start passes and stop passes come in any order, and any
start may fail; nothing but what components are doing goes from one pass to the next. If the components
behave well and all are idle or running at first, then each of them is switched on and off in turns; a
stop pass leaves none of the listed ones running, however they came to run, and reports just those that
ran when it began; and a start pass that ends well leaves all of them running that it may start.

An orchestrator that is given errands carries each of them out by one such pass. It runs if and only if
the last of its passes that was no failed start was a start.
-/

import PhasedLifecycle.Proofs.FailedStart
import PhasedLifecycle.Proofs.LateSignals
import PhasedLifecycle.Proofs.WellBehavedPasses

namespace PhasedLifecycle

open Pass

/-! ### Performances -/

/-- How a pass ended. -/
inductive Finish where
  /-- It was a start pass over all components, or over those that start by themselves. -/
  | started (autoOnly : Bool) (outcome : Except LifecycleError Unit)
  | stopped (report : StopReport)

/-- One run of a pass over a snapshot. -/
structure Performance where
  snapshot : List Member
  timeout : Nat
  record : List Exchange
  finish : Finish

namespace Performance

/-- The pass runs along the record and ends so. -/
def Runs : Performance → Prop
  | ⟨snapshot, timeout, record, .started autoOnly outcome⟩ =>
    (startPass snapshot timeout autoOnly).Yields record outcome
  | ⟨snapshot, timeout, record, .stopped report⟩ => (stopPass snapshot timeout).Yields record report

/-- What a pass brings about, given what components did before and do after it. After a start pass that
ends well, each listed component runs that it may start. After a stop pass no listed component runs, and
the report is clean and names as stopped those that ran before. -/
def Delivers (auto : Component → Bool) (before after : Component → Activity) : Performance → Prop
  | ⟨snapshot, _, _, .started autoOnly (.ok ())⟩ =>
    ∀ member ∈ snapshot, member.component.IsMeant auto autoOnly → after member.component = .running
  | ⟨_, _, _, .started _ (.error _)⟩ => True
  | ⟨snapshot, _, _, .stopped report⟩ =>
    (∀ member ∈ snapshot, after member.component = .idle) ∧ report.isClean = true ∧
      report.stopped.Perm
        ((snapshot.filter fun member => before member.component = .running).map (·.name))

end Performance

/-- The exchanges of passes that run one after the other. -/
def performed (performances : List Performance) : List Exchange :=
  performances.flatMap (·.record)

section

variable {auto : Component → Bool} {surroundings : Surroundings} {activity : Component → Activity}

/-- One pass switches each component at most once, and brings about what it should. -/
theorem Performance.Runs.delivers {performance : Performance} (runs : performance.Runs)
    (each : EachOnce performance.snapshot)
    (behaved : WellBehaved auto surroundings activity performance.record)
    (settled : ∀ component, (activity component).IsSettled) :
    (∀ component, (activity component).Switches (switchesIn component performance.record)
      (activitiesAfter activity performance.record component)) ∧
    performance.Delivers auto activity (activitiesAfter activity performance.record) := by
  obtain ⟨snapshot, timeout, record, finish⟩ := performance
  cases finish with
  | started autoOnly outcome =>
    refine ⟨switches_startPass each runs behaved settled, ?_⟩
    cases outcome with
    | ok => exact fun member listed => running_of_startPass each runs behaved settled listed
    | error error => exact trivial
  | stopped report =>
    obtain ⟨history, rfl, rfl⟩ := exists_stopHistory runs
    exact ⟨fun component => (history.switches each behaved settled component).1,
      fun member listed => (history.switches each behaved settled member.component).2
        (List.mem_map_of_mem listed),
      history.isClean_and_perm_stopped each behaved settled⟩

/-- What a pass makes of a component goes before what later passes make of it. -/
theorem Activity.Switches.isChain {before after : Activity} {switches later : List Bool}
    (switched : before.Switches switches after)
    (chain : (decide (after = .running) :: later).IsChain (· ≠ ·)) :
    (decide (before = .running) :: (switches ++ later)).IsChain (· ≠ ·) := by
  cases switched with
  | keeps settled => exact chain
  | on => exact .cons_cons nofun chain
  | off => exact .cons_cons nofun chain

/-! ### Sequences of passes -/

/-- What a sequence of passes keeps to, from a moment when each component is doing something. -/
structure Orderly (auto : Component → Bool) (activity : Component → Activity)
    (performances : List Performance) : Prop where
  /-- Each component is switched on and off in turns; first on, if it did not run. -/
  alternate : ∀ component, (decide (activity component = .running) ::
    switchesIn component (performed performances)).IsChain (· ≠ ·)
  /-- Between passes each component is idle or running. -/
  settled : ∀ earlier, earlier <+: performances →
    ∀ component, (activitiesAfter activity (performed earlier) component).IsSettled
  /-- Each pass brings about what it should. -/
  delivers : ∀ earlier performance later, performances = earlier ++ performance :: later →
    performance.Delivers auto (activitiesAfter activity (performed earlier))
      (activitiesAfter activity (performed (earlier ++ [performance])))

/-- Passes that run and behave well are orderly. What components are doing after the first of them is all
that the later ones depend on. -/
theorem orderly_of_runs {performances : List Performance}
    (runs : ∀ performance ∈ performances, performance.Runs)
    (each : ∀ performance ∈ performances, EachOnce performance.snapshot)
    (behaved : WellBehaved auto surroundings activity (performed performances))
    (settled : ∀ component, (activity component).IsSettled) : Orderly auto activity performances := by
  induction performances generalizing surroundings activity with
  | nil =>
    refine ⟨fun component => .singleton _, fun earlier inside => ?_, fun earlier _ _ place => ?_⟩
    · obtain rfl := List.prefix_nil.mp inside
      exact settled
    · cases earlier <;> cases place
  | cons performance performances inductionHypothesis =>
    obtain ⟨first, rest⟩ := wellBehaved_append.mp behaved
    obtain ⟨switched, delivers⟩ := (runs _ List.mem_cons_self).delivers
      (each _ List.mem_cons_self) first settled
    have later := inductionHypothesis (fun other there => runs other (List.mem_cons_of_mem _ there))
      (fun other there => each other (List.mem_cons_of_mem _ there)) rest
      fun component => (switched component).isSettled
    refine ⟨fun component => ?_, fun earlier inside => ?_, fun earlier other rest place => ?_⟩
    · show (_ :: switchesIn component (performance.record ++ performed performances)).IsChain _
      rw [switchesIn_append]
      exact (switched component).isChain (later.alternate component)
    · cases earlier with
      | nil => exact settled
      | cons head earlier =>
        obtain ⟨rfl, among⟩ := List.cons_prefix_cons.mp inside
        show ∀ component, (activitiesAfter activity (head.record ++ performed earlier)
          component).IsSettled
        rw [activitiesAfter_append]
        exact later.settled earlier among
    · cases earlier with
      | nil =>
        obtain ⟨rfl, -⟩ := List.cons.inj place
        show performance.Delivers auto activity (activitiesAfter activity (performance.record ++ []))
        rw [List.append_nil]
        exact delivers
      | cons head earlier =>
        obtain ⟨rfl, among⟩ := List.cons.inj place
        show other.Delivers auto (activitiesAfter activity (performance.record ++ performed earlier))
          (activitiesAfter activity (performance.record ++ performed (earlier ++ [other])))
        rw [activitiesAfter_append, activitiesAfter_append]
        exact later.delivers earlier other rest among

end

/-! ### Passes in surroundings that are there -/

/-- The question of an exchange and its answer, whatever happened meanwhile. -/
def Exchange.bare (exchange : Exchange) : Exchange :=
  { exchange with meanwhile := [], instant := 0 }

namespace Pass

variable {State Value : Type} {answer : (request : Request) → State → request.Answer × State}

/-- Surroundings answer the questions of the pass as in the record, and it ends with the value. -/
def IsAnsweredBy (answer : (request : Request) → State → request.Answer × State) (state : State)
    (pass : Pass Value) (record : List Exchange) (value : Value) : Prop :=
  record.map Exchange.bare = pass.recordOf answer (fun _ => []) (fun _ => 0) state ∧
    (pass.run answer state).1 = value

theorem isAnsweredBy_recordOf (pass : Pass Value) (state : State) :
    pass.IsAnsweredBy answer state (pass.recordOf answer (fun _ => []) (fun _ => 0) state)
      (pass.run answer state).1 := by
  refine ⟨?_, rfl⟩
  induction pass generalizing state with
  | done value => rfl
  | asking request next inductionHypothesis => exact congrArg _ (inductionHypothesis _ _)

theorem IsAnsweredBy.yields {pass : Pass Value} {state : State} {record : List Exchange} {value : Value}
    (answered : pass.IsAnsweredBy answer state record value) : pass.Yields record value := by
  obtain ⟨same, ends⟩ := answered
  induction pass generalizing state record with
  | done final => exact ⟨List.map_eq_nil_iff.mp same, ends.symm⟩
  | asking request next inductionHypothesis =>
    obtain ⟨⟨asked, reply, meanwhile, instant⟩, rest, rfl, head, later⟩ := List.map_eq_cons_iff.mp same
    obtain rfl : asked = request := congrArg Exchange.request head
    obtain rfl : reply = (answer asked state).1 := eq_of_heq (Exchange.mk.inj head).2.1
    exact ⟨_, meanwhile, instant, rest, rfl, inductionHypothesis _ later ends⟩

end Pass

namespace Finish

/-- Which components the pass was to start, if it was a start pass. -/
def autoOnly? : Finish → Option Bool
  | .started autoOnly _ => some autoOnly
  | .stopped _ => none

/-- What the end of the pass tells of its orchestrator: it runs after a start that ended well, does not
run after a stop, and goes on as before after a start that failed. -/
def running? : Finish → Option Bool
  | .started _ (.ok ()) => some true
  | .started _ (.error _) => none
  | .stopped _ => some false

/-- What is returned at the end of the pass. -/
def result : Finish → Rehearsal.Result
  | .started _ (.ok ()) => .done
  | .started _ (.error error) => .lifecycleError error
  | .stopped report => .report report

/-- What is returned tells whether the orchestrator runs. -/
theorem running?_eq_of_result {first second : Finish} (same : first.result = second.result) :
    first.running? = second.running? := by
  obtain ⟨_, _ | _⟩ | _ := first <;> obtain ⟨_, _ | _⟩ | _ := second <;> first | rfl | cases same

end Finish

/-- Surroundings answer the questions of the pass as in its record. -/
def Performance.IsAnsweredBy {State : Type}
    (answer : (request : Request) → State → request.Answer × State) (state : State) :
    Performance → Prop
  | ⟨snapshot, timeout, record, .started autoOnly outcome⟩ =>
    (startPass snapshot timeout autoOnly).IsAnsweredBy answer state record outcome
  | ⟨snapshot, timeout, record, .stopped report⟩ =>
    (stopPass snapshot timeout).IsAnsweredBy answer state record report

theorem Performance.IsAnsweredBy.runs {State : Type}
    {answer : (request : Request) → State → request.Answer × State} {state : State}
    {performance : Performance} (answered : performance.IsAnsweredBy answer state) :
    performance.Runs := by
  obtain ⟨snapshot, timeout, record, finish⟩ := performance
  cases finish with
  | started autoOnly outcome => exact Pass.IsAnsweredBy.yields answered
  | stopped report => exact Pass.IsAnsweredBy.yields answered

/-- Whether an orchestrator runs after passes, given whether it ran before. -/
def runningAfter (running : Bool) (performances : List Performance) : Bool :=
  (performances.filterMap (·.finish.running?)).getLast?.getD running

theorem runningAfter_cons (running : Bool) (performance : Performance)
    (performances : List Performance) :
    runningAfter running (performance :: performances) =
      runningAfter (performance.finish.running?.getD running) performances := by
  unfold runningAfter
  rw [List.filterMap_cons]
  cases performance.finish.running? with
  | none => rfl
  | some flag => rw [List.getLast?_cons]; rfl

/-! ### Errands -/

namespace Rehearsal

/-- What an orchestrator can be given to do. -/
inductive Errand where
  | start
  | refresh
  | stop
  | close

namespace Errand

/-- The step that gives the errand to the orchestrator of the latest seat. -/
def step : Errand → Step
  | .start => .start
  | .refresh => .refreshPass
  | .stop => .stop
  | .close => .closePass

/-- Which components the errand is to start, if any. -/
def autoOnly? : Errand → Option Bool
  | .start => some false
  | .refresh => some true
  | .stop => none
  | .close => none

end Errand

namespace World

/-- The world in which the pass of an errand begins. -/
def opened (world : World) (seat : Seat) : Errand → World
  | .start | .stop => world
  | .refresh => (world.mark seat (.entered .refresh)).report [.refreshPass]
  | .close => (world.mark seat (.entered .close)).report [.closePass]

/-- The world once an errand is done whose pass has ended. -/
def finished (world : World) (seat : Seat) : Errand → World
  | .start | .stop => world
  | .refresh => world.mark seat (.left .refresh)
  | .close => world.mark seat (.left .close)

/-- The orchestrator of a seat does an errand. -/
def carryOut (take : Taker) (seat : Seat) (errand : Errand) (world : World) : Result × World :=
  match errand.autoOnly? with
  | some autoOnly =>
    let (outcome, world) := (world.opened seat errand).conductStart take seat autoOnly
    startResult (outcome, world.finished seat errand)
  | none =>
    let (outcome, world) := (world.opened seat errand).conductStop take seat
    stopResult (outcome, world.finished seat errand)

/-- The steps that run passes give errands to the latest seat. -/
theorem takeWith_step (take : Taker) (errand : Errand) (world : World) :
    takeWith take errand.step world = world.carryOut take world.seat errand := by
  cases errand <;> rfl

/-- An errand leads from one world to another by a pass over what the registry of the seat holds, in
which the world answers. -/
structure Performs (take : Taker) (seat : Seat) (errand : Errand) (before : World)
    (performance : Performance) (after : World) : Prop where
  snapshot : performance.snapshot = before.snapshot (before.viewOf seat)
  timeout : performance.timeout = (before.orchestrator seat).timeout
  autoOnly : performance.finish.autoOnly? = errand.autoOnly?
  answered : performance.IsAnsweredBy (answer take (before.viewOf seat)) (before.opened seat errand)
  returns : before.carryOut take seat errand = (performance.finish.result, after)

/-- Errands lead from one world to another, one after the other. -/
inductive PerformsAll (take : Taker) (seat : Seat) :
    List Errand → World → List Performance → World → Prop
  | nil (world : World) : PerformsAll take seat [] world [] world
  | cons {errand : Errand} {errands : List Errand} {before middle after : World}
      {performance : Performance} {performances : List Performance}
      (first : Performs take seat errand before performance middle)
      (rest : PerformsAll take seat errands middle performances after) :
      PerformsAll take seat (errand :: errands) before (performance :: performances) after

theorem PerformsAll.runs {take : Taker} {seat : Seat} {errands : List Errand} {before after : World}
    {performances : List Performance}
    (performs : PerformsAll take seat errands before performances after) :
    ∀ performance ∈ performances, performance.Runs := by
  induction performs with
  | nil => exact fun _ there => absurd there List.not_mem_nil
  | cons first rest inductionHypothesis =>
    exact List.forall_mem_cons.mpr ⟨first.answered.runs, inductionHypothesis⟩

theorem orchestrator_changeOrchestrator {world : World} {seat : Seat}
    (attached : (world.orchestrator seat).isAttached = true) (change : Orchestrator → Orchestrator) :
    (world.changeOrchestrator seat change).orchestrator seat = change (world.orchestrator seat) := by
  cases seat with
  | setUp => rfl
  | housing number =>
    rw [orchestrator_housing] at attached
    rw [orchestrator_housing, orchestrator_housing, changeOrchestrator, List.getElem?_modify_eq]
    cases there : world.housings[number]? with
    | none =>
      rw [there] at attached
      cases attached
    | some housing => rfl

/-- The seat can take components from a registry, and no actor runs passes while it is called. -/
structure Ready (seat : Seat) (world : World) : Prop where
  attached : (world.orchestrator seat).isAttached = true
  undisturbed : world.Undisturbed

section

variable {seat : Seat} {world : World} (depth : Nat)

/-- A pass leaves a seat ready, and its orchestrator running or not. -/
theorem Ready.conduct {Value : Type} (ready : world.Ready seat) (view : View) (pass : Pass Value) :
    (world.conduct (takeStep depth) view pass).2.Ready seat ∧
      ((world.conduct (takeStep depth) view pass).2.orchestrator seat).isRunning =
        (world.orchestrator seat).isRunning := by
  obtain ⟨ownSteps, keeps⟩ := (course_flags depth).conduct view pass world
  obtain ⟨attached, same⟩ := keeps ready.undisturbed seat ready.attached
  refine ⟨⟨attached, ?_⟩, same⟩
  rw [Undisturbed, ownSteps]
  exact ready.undisturbed

/-- An orchestrator that notes whether it runs stays ready. -/
theorem Ready.setRunning (ready : world.Ready seat) (running : Bool) :
    (world.changeOrchestrator seat fun orchestrator =>
      { orchestrator with isRunning := running }).Ready seat := by
  constructor
  · rw [orchestrator_changeOrchestrator ready.attached]
    exact ready.attached
  · rw [Undisturbed, ownSteps_changeOrchestrator]
    exact ready.undisturbed

/-- A seat that is ready runs its start passes. -/
theorem Ready.conductStart (ready : world.Ready seat) (autoOnly : Bool) :
    ∃ outcome after, world.conductStart (takeStep depth) seat autoOnly = (outcome, after) ∧
      ((startPass (world.snapshot (world.viewOf seat)) (world.orchestrator seat).timeout autoOnly).run
        (answer (takeStep depth) (world.viewOf seat)) world).1 = outcome ∧
      after.Ready seat ∧ (after.orchestrator seat).isRunning =
        (Finish.started autoOnly outcome).running?.getD (world.orchestrator seat).isRunning := by
  obtain ⟨passed, same⟩ := ready.conduct depth (world.viewOf seat)
    (startPass (world.snapshot (world.viewOf seat)) (world.orchestrator seat).timeout autoOnly)
  unfold World.conductStart
  dsimp only
  rw [ready.attached]
  cases conducted : world.conduct (takeStep depth) (world.viewOf seat)
    (startPass (world.snapshot (world.viewOf seat)) (world.orchestrator seat).timeout autoOnly) with
  | mk outcome after =>
    have ended := congrArg Prod.fst conducted
    rw [conducted] at passed same
    cases outcome with
    | ok =>
      refine ⟨_, _, rfl, ended, passed.setRunning true, ?_⟩
      rw [orchestrator_changeOrchestrator passed.attached]
      rfl
    | error error => exact ⟨_, _, rfl, ended, passed, same⟩

/-- A seat that is ready runs its stop passes. -/
theorem Ready.conductStop (ready : world.Ready seat) :
    ∃ report after, world.conductStop (takeStep depth) seat = (.ok report, after) ∧
      ((stopPass (world.snapshot (world.viewOf seat)) (world.orchestrator seat).timeout).run
        (answer (takeStep depth) (world.viewOf seat)) world).1 = report ∧
      after.Ready seat ∧ (after.orchestrator seat).isRunning = false := by
  obtain ⟨passed, -⟩ := ready.conduct depth (world.viewOf seat)
    (stopPass (world.snapshot (world.viewOf seat)) (world.orchestrator seat).timeout)
  unfold World.conductStop
  dsimp only
  rw [ready.attached]
  refine ⟨_, _, rfl, rfl, passed.setRunning false, ?_⟩
  rw [orchestrator_changeOrchestrator passed.attached]

/-- Opening an errand leaves alone what its pass begins with. -/
theorem opened_alike (world : World) (seat : Seat) (errand : Errand) :
    (world.opened seat errand).viewOf seat = world.viewOf seat ∧
      (world.opened seat errand).orchestrator seat = world.orchestrator seat ∧
      (world.opened seat errand).ownSteps = world.ownSteps ∧
      ∀ view, (world.opened seat errand).snapshot view = world.snapshot view := by
  cases errand <;> exact ⟨rfl, rfl, rfl, fun _ => rfl⟩

/-- Finishing an errand leaves the seat ready, and running or not. -/
theorem Ready.finished (ready : world.Ready seat) (errand : Errand) :
    (world.finished seat errand).Ready seat ∧
      ((world.finished seat errand).orchestrator seat).isRunning =
        (world.orchestrator seat).isRunning := by
  cases errand <;> exact ⟨⟨ready.attached, ready.undisturbed⟩, rfl⟩

/-- A seat that is ready does an errand by a pass, and notes how the pass ended. -/
theorem Ready.exists_performs (ready : world.Ready seat) (errand : Errand) :
    ∃ performance after, Performs (takeStep depth) seat errand world performance after ∧
      after.Ready seat ∧ (after.orchestrator seat).isRunning =
        performance.finish.running?.getD (world.orchestrator seat).isRunning := by
  obtain ⟨view, office, ownSteps, snapshot⟩ := opened_alike world seat errand
  have begun : (world.opened seat errand).Ready seat := by
    refine ⟨office ▸ ready.attached, ?_⟩
    rw [Undisturbed, ownSteps]
    exact ready.undisturbed
  cases kind : errand.autoOnly? with
  | some autoOnly =>
    obtain ⟨outcome, after, conducted, ended, later, running⟩ := begun.conductStart depth autoOnly
    rw [view, office, snapshot] at ended
    rw [office] at running
    obtain ⟨last, same⟩ := later.finished errand
    refine ⟨⟨_, _, _, .started autoOnly outcome⟩, _, ⟨rfl, rfl, kind.symm,
      ended ▸ isAnsweredBy_recordOf _ _, ?_⟩, last, same.trans running⟩
    rw [carryOut, kind]
    dsimp only
    rw [conducted]
    cases outcome <;> rfl
  | none =>
    obtain ⟨report, after, conducted, ended, later, running⟩ := begun.conductStop depth
    rw [view, office, snapshot] at ended
    obtain ⟨last, same⟩ := later.finished errand
    refine ⟨⟨_, _, _, .stopped report⟩, _, ⟨rfl, rfl, kind.symm,
      ended ▸ isAnsweredBy_recordOf _ _, ?_⟩, last, same.trans running⟩
    rw [carryOut, kind]
    dsimp only
    rw [conducted]
    rfl

/-- A seat that is ready can do any errands. -/
theorem Ready.exists_performsAll (ready : world.Ready seat) (errands : List Errand) :
    ∃ performances after, PerformsAll (takeStep depth) seat errands world performances after := by
  induction errands generalizing world with
  | nil => exact ⟨[], world, .nil world⟩
  | cons errand errands inductionHypothesis =>
    obtain ⟨performance, middle, first, later, -⟩ := ready.exists_performs depth errand
    obtain ⟨performances, after, rest⟩ := inductionHypothesis later
    exact ⟨performance :: performances, after, .cons first rest⟩

variable {depth}

/-- However an errand was done, it leaves the seat ready, and running or not as its pass tells. -/
theorem Performs.leaves {errand : Errand} {performance : Performance} {after : World}
    (performs : Performs (takeStep depth) seat errand world performance after)
    (ready : world.Ready seat) :
    after.Ready seat ∧ (after.orchestrator seat).isRunning =
      performance.finish.running?.getD (world.orchestrator seat).isRunning := by
  obtain ⟨other, left, others, later, running⟩ := ready.exists_performs depth errand
  obtain ⟨result, rfl⟩ := Prod.mk.inj (performs.returns.symm.trans others.returns)
  rw [Finish.running?_eq_of_result result]
  exact ⟨later, running⟩

/-- However errands were done, the orchestrator runs afterwards or not as their passes tell. -/
theorem PerformsAll.isRunning {errands : List Errand} {performances : List Performance} {after : World}
    (performs : PerformsAll (takeStep depth) seat errands world performances after)
    (ready : world.Ready seat) : (after.orchestrator seat).isRunning =
      runningAfter (world.orchestrator seat).isRunning performances := by
  induction performs with
  | nil => rfl
  | cons first rest inductionHypothesis =>
    obtain ⟨later, running⟩ := first.leaves ready
    rw [inductionHypothesis later, running, runningAfter_cons]

end

end World

end Rehearsal

/-! ### Whole runs -/

/-- Whole runs of an orchestrator, whatever starts fail.

Passes run one after the other, each over a snapshot in which every component has one name, and in
well-behaved surroundings in which nothing runs at first; edges, phases and the starts that fail are left
open. Then each component is switched on and off in turns, first on; every stop pass leaves none of its
components running, and has a clean report that names as stopped those that ran when it began; and every
start pass that ends well leaves all of its components running, or all that start by themselves if it
starts no others.

An orchestrator with a registry does any errands by such passes, over what its registry holds at the
time. Where actors run no passes while they are called, it runs afterwards if and only if the last of its
passes that was no failed start was a start, or there was no such pass and it ran before. -/
theorem whole_runs_are_orderly :
    (∀ (auto : Component → Bool) (surroundings : Surroundings) (performances : List Performance),
      (∀ performance ∈ performances, performance.Runs) →
      (∀ performance ∈ performances, EachOnce performance.snapshot) →
      WellBehaved auto surroundings (fun _ => .idle) (performed performances) →
        Orderly auto (fun _ => .idle) performances) ∧
    ∀ (depth : Nat) (seat : Rehearsal.Seat) (errands : List Rehearsal.Errand) (world : Rehearsal.World),
      (world.orchestrator seat).isAttached = true → world.Undisturbed →
      (∃ performances after, Rehearsal.World.PerformsAll (Rehearsal.World.takeStep depth) seat errands
        world performances after) ∧
      ∀ performances after, Rehearsal.World.PerformsAll (Rehearsal.World.takeStep depth) seat errands
          world performances after →
        (∀ performance ∈ performances, performance.Runs) ∧
        (after.orchestrator seat).isRunning =
          runningAfter (world.orchestrator seat).isRunning performances := by
  refine ⟨fun auto surroundings performances runs each behaved =>
    orderly_of_runs runs each behaved fun _ => nofun, ?_⟩
  intro depth seat errands world attached undisturbed
  have ready : world.Ready seat := ⟨attached, undisturbed⟩
  exact ⟨ready.exists_performsAll depth errands,
    fun performances after performs => ⟨performs.runs, performs.isRunning ready⟩⟩

/-! ### Runs that can be checked -/

instance Exchange.decidableIsFaithful (activity : Component → Activity) :
    ∀ exchange, Decidable (Exchange.IsFaithful activity exchange)
  | ⟨.isRunning component, ran, _, _⟩ =>
    inferInstanceAs (Decidable ((activity component = .idle → ran = false) ∧
      (activity component = .running → ran = true)))
  | ⟨.stop _, reason, _, _⟩ => inferInstanceAs (Decidable (reason = none))
  | ⟨.stopAsync _ _, reason, _, _⟩ => inferInstanceAs (Decidable (reason = none))
  | ⟨.dependencies _, _, _, _⟩ | ⟨.dependents _, _, _, _⟩ | ⟨.isAutoStartup _, _, _, _⟩
  | ⟨.phase _, _, _, _⟩ | ⟨.start _, _, _, _⟩ | ⟨.barrierMark, _, _, _⟩ | ⟨.arrivals _, _, _, _⟩
  | ⟨.now, _, _, _⟩ | ⟨.nextArrival _ _, _, _, _⟩ | ⟨.note _, _, _, _⟩ =>
    inferInstanceAs (Decidable True)

instance decidableFaithful : ∀ (activity : Component → Activity) (record : List Exchange),
    Decidable (Faithful activity record)
  | _, [] => inferInstanceAs (Decidable True)
  | activity, exchange :: record =>
    have := decidableFaithful (activitiesAfter activity [exchange]) record
    inferInstanceAs (Decidable (_ ∧ _ ∧ _))

instance Exchange.decidableKeepsAutos (auto : Component → Bool) :
    ∀ exchange, Decidable (Exchange.KeepsAutos auto exchange)
  | ⟨.isAutoStartup component, answer, _, _⟩ => inferInstanceAs (Decidable (answer = auto component))
  | ⟨.isRunning _, _, _, _⟩ | ⟨.stop _, _, _, _⟩ | ⟨.stopAsync _ _, _, _, _⟩
  | ⟨.dependencies _, _, _, _⟩ | ⟨.dependents _, _, _, _⟩
  | ⟨.phase _, _, _, _⟩ | ⟨.start _, _, _, _⟩ | ⟨.barrierMark, _, _, _⟩ | ⟨.arrivals _, _, _, _⟩
  | ⟨.now, _, _, _⟩ | ⟨.nextArrival _ _, _, _, _⟩ | ⟨.note _, _, _, _⟩ =>
    inferInstanceAs (Decidable True)

instance Exchange.decidableIsInTime (later : Surroundings) :
    ∀ exchange, Decidable (Exchange.IsInTime later exchange)
  | ⟨.nextArrival barrier _, none, _, _⟩ => inferInstanceAs (Decidable (later.openFor barrier = []))
  | ⟨.nextArrival _ _, some _, _, _⟩ => inferInstanceAs (Decidable True)
  | ⟨.isRunning _, _, _, _⟩ | ⟨.stop _, _, _, _⟩ | ⟨.stopAsync _ _, _, _, _⟩
  | ⟨.dependencies _, _, _, _⟩ | ⟨.dependents _, _, _, _⟩ | ⟨.isAutoStartup _, _, _, _⟩
  | ⟨.phase _, _, _, _⟩ | ⟨.start _, _, _, _⟩ | ⟨.barrierMark, _, _, _⟩ | ⟨.arrivals _, _, _, _⟩
  | ⟨.now, _, _, _⟩ | ⟨.note _, _, _, _⟩ => inferInstanceAs (Decidable True)

instance Surroundings.decidableKeepsDeadlines : ∀ (surroundings : Surroundings)
    (record : List Exchange), Decidable (surroundings.KeepsDeadlines record)
  | _, [] => inferInstanceAs (Decidable True)
  | surroundings, exchange :: record =>
    have := decidableKeepsDeadlines (surroundings.after exchange) record
    inferInstanceAs (Decidable (_ ∧ _))

/-- The queue does not start. -/
def refusedQueue : Habits :=
  { slowQueue with failure := fun component => if component.key = "queue" then some "boom" else none }

/-- The queue and its site are refreshed in vain, stopped, started and stopped again, with time
enough. -/
def queuePasses : List Performance :=
  let refresh := startPass queueAndSite 1000 true
  let start := startPass queueAndSite 1000 false
  let stop := stopPass queueAndSite 1000
  [⟨queueAndSite, 1000, refusedQueue.record [] refresh, .started true (refusedQueue.value [] refresh)⟩,
    ⟨queueAndSite, 1000, slowQueue.record [⟨"site", .plain⟩] stop,
      .stopped (slowQueue.value [⟨"site", .plain⟩] stop)⟩,
    ⟨queueAndSite, 1000, slowQueue.record [] start, .started false (slowQueue.value [] start)⟩,
    ⟨queueAndSite, 1000, slowQueue.record (queueAndSite.map Member.component) stop,
      .stopped (slowQueue.value (queueAndSite.map Member.component) stop)⟩]

theorem queue_passes_are_orderly :
    queuePasses.map (·.finish.running?) = [none, some false, some true, some false] ∧
    switchesIn ⟨"site", .plain⟩ (performed queuePasses) = [true, false, true, false] ∧
    switchesIn ⟨"queue", .smart⟩ (performed queuePasses) = [true, false] ∧
    Orderly (fun _ => true) (fun _ => .idle) queuePasses ∧
    ∃ performances after, Rehearsal.World.PerformsAll (Rehearsal.World.takeStep 10) .setUp
        [.stop, .refresh] brokenSite performances after ∧
      (after.orchestrator .setUp).isRunning = runningAfter true performances := by
  obtain ⟨passes, errands⟩ := whole_runs_are_orderly
  have runs : ∀ performance ∈ queuePasses, performance.Runs := by
    unfold queuePasses
    simp only [List.forall_mem_cons]
    exact ⟨Habits.yields_record _ _ _, Habits.yields_record _ _ _, Habits.yields_record _ _ _,
      Habits.yields_record _ _ _, fun _ there => absurd there List.not_mem_nil⟩
  have each : ∀ performance ∈ queuePasses, EachOnce performance.snapshot := by
    have once : EachOnce queueAndSite := ⟨by decide, by decide, by decide⟩
    unfold queuePasses
    simp only [List.forall_mem_cons]
    exact ⟨once, once, once, once, fun _ there => absurd there List.not_mem_nil⟩
  have behaved : WellBehaved (fun _ => true) {} (fun _ => .idle) (performed queuePasses) :=
    ⟨by decide +kernel, by decide +kernel, by decide +kernel, by decide +kernel⟩
  have undisturbed : brokenSite.Undisturbed := by
    have none : brokenSite.ownSteps = [] := by cbv
    rw [Rehearsal.World.Undisturbed, none]
    exact fun step there => absurd there List.not_mem_nil
  obtain ⟨⟨performances, after, performs⟩, all⟩ :=
    errands 10 .setUp [.stop, .refresh] brokenSite rfl undisturbed
  exact ⟨by decide +kernel, by decide +kernel, by decide +kernel, passes _ _ _ runs each behaved,
    performances, after, performs, (all performances after performs).2⟩

end PhasedLifecycle
