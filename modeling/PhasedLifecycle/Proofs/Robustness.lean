/-
This file shows what no registry can make a pass do. The edges that a registry answers may go in
circles, name strangers, name one component many times, and differ from one answer to the next, as they
do when components register others while they are called; a snapshot may list a name more than once.
Still a pass ends, gives no name more than one turn and no turn more than one call, and leaves no name
of its groups out, unless a component failed to start.
-/

import PhasedLifecycle.Proofs.DependentsFirst
import PhasedLifecycle.Proofs.Questions
import PhasedLifecycle.Proofs.Recursion
import PhasedLifecycle.Rehearsal.Play

namespace PhasedLifecycle

open Pass

/-! ### Turns of a snapshot -/

/-- A pass keeps to a snapshot: all its calls are made in turns, no name has two turns, and each turn is
of a listed name, with the last component that is listed under it. -/
structure KeepsTo (snapshot : List Member) (record : List Exchange) : Prop where
  calls : callsIn record = (turnsIn record).flatMap (·.calls)
  once : ((turnsIn record).map (·.name)).Nodup
  last : ∀ turn ∈ turnsIn record, snapshot.reverse.find? (·.name = turn.name) = some turn.member

theorem KeepsTo.of_drawn {snapshot : List Member} {record : List Exchange}
    (strays : (({} : Docket).readAll record).strays = [])
    (once : ((turnsIn record).map (·.name)).Nodup)
    (drawn : ∀ turn ∈ turnsIn record,
      (WorkingSet.ofList snapshot).get? turn.name = some turn.component) : KeepsTo snapshot record where
  calls := (flatMap_calls_turnsIn strays).symm
  once := once
  last := fun turn there => by
    have found := drawn turn there
    rw [WorkingSet.get?_ofList] at found
    obtain ⟨member, search, component⟩ := Option.map_eq_some_iff.mp found
    have name : member.name = turn.name := by simpa using List.find?_some search
    rw [search, Turn.member, ← name, ← component]

/-- The names of the groups that a pass gathers have one turn each. -/
def TurnsForGroups (snapshot : List Member) (timeout : Nat) (autoOnly : Bool)
    (record : List Exchange) : Prop :=
  ∃ gathering groups rest, record = gathering ++ rest ∧
    (groupSnapshot snapshot timeout autoOnly).Yields gathering groups ∧
    ∀ group ∈ groups, ∀ member ∈ group.members,
      ((turnsIn record).map (·.name)).count member.name = 1

/-! ### Start passes -/

theorem StartTurn.calls_eq {autoOnly : Bool} {turn : Turn} {failure : Option LifecycleError}
    (kind : StartTurn autoOnly turn failure) :
    turn.calls = [] ∨ ∃ reason, turn.calls = [.start turn.component reason] := by
  cases kind with
  | running name component => exact Or.inl rfl
  | declining name component automatic => exact Or.inl rfl
  | starting name component auto => exact Or.inr ⟨none, rfl⟩
  | failing name component auto reason => exact Or.inr ⟨some reason, rfl⟩

theorem keepsTo_startPass {snapshot : List Member} {timeout : Nat} {autoOnly : Bool}
    {record : List Exchange} {outcome : Except LifecycleError Unit}
    (yields : (startPass snapshot timeout autoOnly).Yields record outcome) :
    KeepsTo snapshot record ∧
      (∀ turn ∈ turnsIn record,
        turn.calls = [] ∨ ∃ reason, turn.calls = [.start turn.component reason]) ∧
      (outcome = .ok () → TurnsForGroups snapshot timeout autoOnly record) := by
  obtain ⟨gathering, groups, started, starting, entered, place, gathers, span, strays, all⟩ :=
    span_startPass yields
  refine ⟨.of_drawn strays span.once span.drawn, fun turn there => ?_, fun fine =>
    ⟨gathering, groups, started, place, gathers, fun group there member inside => ?_⟩⟩
  · obtain ⟨failure, kind⟩ := span.kinds turn there
    exact kind.calls_eq
  · exact List.count_eq_one_of_mem span.once (all fine group there member inside)

/-! ### Stop passes -/

theorem Turn.IsSettled.calls_eq {turn : Turn} (settled : turn.IsSettled) :
    turn.calls = [] ∨ (∃ reason, turn.calls = [.stop turn.component reason]) ∨
      ∃ signal reason, turn.calls = [.stopAsync turn.component signal reason] := by
  rcases settled with ⟨-, calls⟩ | ⟨-, -, calls⟩ | ⟨-, -, calls⟩
  · exact Or.inl calls
  · exact Or.inr (Or.inl calls)
  · exact Or.inr (Or.inr calls)

theorem keepsTo_stopPass {snapshot : List Member} {timeout : Nat} {record : List Exchange}
    {report : StopReport} (yields : (stopPass snapshot timeout).Yields record report) :
    KeepsTo snapshot record ∧
      (∀ turn ∈ turnsIn record,
        turn.calls = [] ∨ (∃ reason, turn.calls = [.stop turn.component reason]) ∨
          ∃ signal reason, turn.calls = [.stopAsync turn.component signal reason]) ∧
      TurnsForGroups snapshot timeout false record := by
  obtain ⟨history, rfl, rfl⟩ := exists_stopHistory yields
  refine ⟨.of_drawn history.strays_record history.nodup_names_turnsIn fun turn there =>
    (history.turn_of_mem there).1, fun turn there => (history.isSettled_of_mem there).calls_eq,
    history.gathering, history.groups, _, rfl, history.gathered, fun group there member inside => ?_⟩
  refine List.count_eq_one_of_mem history.nodup_names_turnsIn ?_
  have stands := get?_of_groupSnapshot history.gathered group there member inside
  obtain ⟨turn, inRounds, same⟩ := history.exists_turn_of_name
    ((WorkingSet.mem_names_ofList snapshot member.name).mp (WorkingSet.mem_names_of_get? stands))
  rw [history.turnsIn_record, ← same]
  exact List.mem_map_of_mem inRounds

/-- With a registry to take components from, an orchestrated stop pass ends well, with the report of a
stop pass over what the registry held at its beginning. -/
theorem conductStop_of_isAttached (take : Rehearsal.Taker) (seat : Rehearsal.Seat)
    (world : Rehearsal.World) (attached : (world.orchestrator seat).isAttached = true) :
    ∃ record report after, world.conductStop take seat = (.ok report, after) ∧
      (stopPass (world.snapshot (world.viewOf seat)) (world.orchestrator seat).timeout).Yields
        record report := by
  have well : (world.conductStop take seat).1 = .ok ((stopPass (world.snapshot (world.viewOf seat))
      (world.orchestrator seat).timeout).run
        (Rehearsal.World.answer take (world.viewOf seat)) world).1 := by
    unfold Rehearsal.World.conductStop
    dsimp only
    rw [attached]
    rfl
  exact ⟨_, _, (world.conductStop take seat).2, Prod.ext well rfl,
    yields_recordOf _ (fun _ => []) (fun _ => 0) _ world⟩

/-! ### Passes against any registry -/

/-- Passes end and keep to their snapshot, whatever the registry and the components answer.

Each pass is the recursion that goes down from a name as soon as the name is out of the working set, and
waits as long as signals are awaited, with no other bound. Whoever answers its questions, it ends; and it
has asked at most so many then. Its calls are made in turns, at most one in each; no name has two turns,
and each turn is of a listed name with the last component listed under it. A start pass that ends well,
and every stop pass, has given one turn to each name of its groups. With a registry to take components
from, a stop pass ends well. -/
theorem passes_end_and_keep_to_snapshot (snapshot : List Member) (timeout : Nat) :
    (∀ autoOnly, Starting.start autoOnly = Starting.goDown autoOnly (Starting.start autoOnly)) ∧
    (∀ members, Stopping.stop members = Stopping.goDown members (Stopping.stop members)) ∧
    (∀ deadline, Wait.toEnd deadline = Wait.goOn deadline (Wait.toEnd deadline)) ∧
    (∀ (State : Type) (answer : (request : Request) → State → request.Answer × State) (state : State),
      (∀ autoOnly, ∃ record, (startPass snapshot timeout autoOnly).Yields record
        ((startPass snapshot timeout autoOnly).run answer state).1) ∧
      ∃ record, (stopPass snapshot timeout).Yields record
        ((stopPass snapshot timeout).run answer state).1) ∧
    (∀ autoOnly record outcome, (startPass snapshot timeout autoOnly).Yields record outcome →
      record.length ≤ 11 * snapshot.length ∧ KeepsTo snapshot record ∧
      (∀ turn ∈ turnsIn record,
        turn.calls = [] ∨ ∃ reason, turn.calls = [.start turn.component reason]) ∧
      (outcome = .ok () → TurnsForGroups snapshot timeout autoOnly record)) ∧
    (∀ record report, (stopPass snapshot timeout).Yields record report →
      record.length ≤ 19 * snapshot.length ∧ KeepsTo snapshot record ∧
      (∀ turn ∈ turnsIn record,
        turn.calls = [] ∨ (∃ reason, turn.calls = [.stop turn.component reason]) ∨
          ∃ signal reason, turn.calls = [.stopAsync turn.component signal reason]) ∧
      TurnsForGroups snapshot timeout false record) ∧
    (∀ take seat (world : Rehearsal.World), (world.orchestrator seat).isAttached = true →
      ∃ record report after, world.conductStop take seat = (.ok report, after) ∧
        (stopPass (world.snapshot (world.viewOf seat)) (world.orchestrator seat).timeout).Yields
          record report) :=
  ⟨Starting.start_eq_goDown, Stopping.stop_eq_goDown, Wait.toEnd_eq_goOn,
    fun _ answer state =>
      ⟨fun _ => ⟨_, yields_recordOf answer (fun _ => []) (fun _ => 0) _ state⟩,
        _, yields_recordOf answer (fun _ => []) (fun _ => 0) _ state⟩,
    fun _ _ _ yields => ⟨length_le_of_startPass yields, keepsTo_startPass yields⟩,
    fun _ _ yields => ⟨length_le_of_stopPass yields, keepsTo_stopPass yields⟩,
    conductStop_of_isAttached⟩

/-- Two components under one name, and one that stops in the background. -/
def twoUnderOneName : List Member :=
  [⟨"left", ⟨"first", .plain⟩⟩, ⟨"right", ⟨"right", .smart⟩⟩, ⟨"left", ⟨"second", .phased⟩⟩]

/-- The edges of a registry that changes with each question about them: they lead in circles, name a
stranger, and name one component twice. -/
def restlessEdges (asked : Nat) : List String :=
  if asked % 2 = 0 then ["stranger", "right", "left", "right"] else ["left"]

/-- Surroundings with such a registry, in which all components run or none does. -/
def restless (running : Bool) : (request : Request) → Nat → request.Answer × Nat
  | .dependencies _, asked => (restlessEdges asked, asked + 1)
  | .dependents _, asked => (restlessEdges asked, asked + 1)
  | .isRunning _, asked => (running, asked)
  | .isAutoStartup _, asked => (true, asked)
  | .phase _, asked => (0, asked)
  | .start _, asked => (none, asked)
  | .stop _, asked => (some "boom", asked)
  | .stopAsync _ _, asked => (none, asked)
  | .barrierMark, asked => (0, asked)
  | .arrivals _, asked => ([], asked)
  | .now, asked => (0, asked)
  | .nextArrival _ _, asked => (none, asked)
  | .note _, asked => ((), asked)

def restlessRecord {Value : Type} (running : Bool) (pass : Pass Value) : List Exchange :=
  pass.recordOf (restless running) (fun _ => []) (fun _ => 0) 0

theorem repeated_name_has_one_turn :
    (∃ turn ∈ turnsIn (restlessRecord false (startPass twoUnderOneName 100 false)),
      turn.member = ⟨"left", ⟨"second", .phased⟩⟩) ∧
    TurnsForGroups twoUnderOneName 100 false
      (restlessRecord false (startPass twoUnderOneName 100 false)) ∧
    (∃ turn ∈ turnsIn (restlessRecord true (stopPass twoUnderOneName 100)),
      turn.member = ⟨"left", ⟨"second", .phased⟩⟩) ∧
    TurnsForGroups twoUnderOneName 100 false
      (restlessRecord true (stopPass twoUnderOneName 100)) ∧
    ∃ report after, ({ setUp := { isAttached := true } } : Rehearsal.World).conductStop
      Rehearsal.World.take .setUp = (.ok report, after) := by
  obtain ⟨-, -, -, -, starts, stops, orchestrated⟩ :=
    passes_end_and_keep_to_snapshot twoUnderOneName 100
  have reads : ∀ record, KeepsTo twoUnderOneName record → "left" ∈ (turnsIn record).map (·.name) →
      ∃ turn ∈ turnsIn record, turn.member = ⟨"left", ⟨"second", .phased⟩⟩ := by
    intro record keeps there
    obtain ⟨turn, inside, name⟩ := List.mem_map.mp there
    have last := keeps.last turn inside
    rw [name] at last
    exact ⟨turn, inside, (Option.some.inj last).symm⟩
  have started : (turnsIn (restlessRecord false (startPass twoUnderOneName 100 false))).map (·.name) =
      ["right", "left"] := by cbv
  have stopped : (turnsIn (restlessRecord true (stopPass twoUnderOneName 100))).map (·.name) =
      ["right", "left"] := by cbv
  have fine : ((startPass twoUnderOneName 100 false).run (restless false) 0).1 = .ok () := by cbv
  obtain ⟨-, keepsStarts, -, startsGroups⟩ := starts false _ _
    (yields_recordOf (restless false) (fun _ => []) (fun _ => 0) _ 0)
  obtain ⟨-, keepsStops, -, stopsGroups⟩ := stops _ _
    (yields_recordOf (restless true) (fun _ => []) (fun _ => 0) _ 0)
  obtain ⟨-, report, after, well, -⟩ := orchestrated Rehearsal.World.take .setUp
    { setUp := { isAttached := true } } rfl
  exact ⟨reads _ keepsStarts (started ▸ by decide), startsGroups fine,
    reads _ keepsStops (stopped ▸ by decide), stopsGroups, report, after, well⟩

end PhasedLifecycle
