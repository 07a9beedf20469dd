/-
This file shows what a stop pass has behind it when it asks a component to stop. With a registry that
answers each question in one way throughout, everything that depends on the component, directly or
through others, has had its turn: it did not run, or it was called to stop, once, and the call has
returned. Only a component on a circle of dependents can be asked earlier.

The other half is that calls cannot disturb this order. The turns come in an order that the edges and
the phases fix, so a call that fails neither keeps a later turn away nor moves it.
-/

import PhasedLifecycle.Proofs.Calls
import PhasedLifecycle.Proofs.Habits
import PhasedLifecycle.Proofs.StopOrder

namespace PhasedLifecycle

open Pass Relation

/-! ### Turns that are over -/

/-- The component of the turn did not run, or it was called to stop, once, in its own way, and the
call has returned. -/
def Turn.IsSettled (turn : Turn) : Prop :=
  (turn.ran = false ∧ turn.calls = []) ∨
  (turn.ran = true ∧ turn.component.isSmart = false ∧
    ∃ reason, turn.calls = [.stop turn.component reason]) ∨
  (turn.ran = true ∧ turn.component.isSmart = true ∧
    ∃ signal reason, turn.calls = [.stopAsync turn.component signal reason])

theorem StopTurn.isSettled {mark : Nat} {turn : Turn} (kind : StopTurn mark turn) :
    turn.IsSettled := by
  cases kind with
  | idle name component => exact Or.inl ⟨rfl, rfl⟩
  | stopping name component reason waits => exact Or.inr (Or.inl ⟨rfl, waits, reason, rfl⟩)
  | signalling name component reason smart => exact Or.inr (Or.inr ⟨rfl, smart, _, reason, rfl⟩)

/-- The components that settled turns call to stop are those that ran. -/
theorem stops_of_settled {turns : List Turn} (settled : ∀ turn ∈ turns, turn.IsSettled) :
    ((turns.flatMap (·.calls)).filter fun call => !call.isStart).map Call.component =
      (turns.filter (·.ran)).map (·.component) := by
  induction turns with
  | nil => rfl
  | cons turn turns inductionHypothesis =>
    have rest := inductionHypothesis fun other there => settled other (List.mem_cons_of_mem _ there)
    rw [List.flatMap_cons, List.filter_append, List.map_append, rest]
    rcases settled turn List.mem_cons_self with ⟨idle, calls⟩ | ⟨ran, -, reason, calls⟩ |
      ⟨ran, -, signal, reason, calls⟩
    · simp [idle, calls]
    · simp [ran, calls, Call.isStart, Call.component]
    · simp [ran, calls, Call.isStart, Call.component]

namespace StopHistory

variable {snapshot : List Member} {timeout : Nat} (history : StopHistory snapshot timeout)

/-! ### The turns of a stop pass -/

/-- Each turn is of what its name stands for in the snapshot, and comes out in one of three ways. -/
theorem turn_of_mem {turn : Turn} (there : turn ∈ turnsIn history.record) :
    (WorkingSet.ofList snapshot).get? turn.name = some turn.component ∧
      ∃ round ∈ history.rounds, turn ∈ round.turns ∧ StopTurn round.mark turn := by
  rw [history.turnsIn_record] at there
  refine ⟨history.chained.once_and_drawn.2 turn there, ?_⟩
  obtain ⟨round, inRounds, inRound⟩ := List.mem_flatMap.mp there
  exact ⟨round, inRounds, inRound, (history.runs_of_mem inRounds).span.1.kinds turn inRound⟩

theorem isSettled_of_mem {turn : Turn} (there : turn ∈ turnsIn history.record) : turn.IsSettled := by
  obtain ⟨-, round, -, -, kind⟩ := history.turn_of_mem there
  exact kind.isSettled

theorem nodup_names_turnsIn : ((turnsIn history.record).map (·.name)).Nodup := by
  rw [history.turnsIn_record]
  exact history.chained.once_and_drawn.1

theorem stopsIn_record :
    stopsIn history.record = ((turnsIn history.record).filter (·.ran)).map (·.component) := by
  rw [← stops_of_settled fun turn there => history.isSettled_of_mem there,
    flatMap_calls_turnsIn history.strays_record]
  rfl

/-- Every call falls in the turn of a name that stands for the component. Whatever depends on that
name has a settled turn before it, unless the name lies on a circle. -/
theorem settled_first {edges : String → List String}
    (fixed : ∀ exchange ∈ history.record, exchange.KeepsDependents edges)
    {before after : List Exchange} {exchange : Exchange} {call : Call}
    (place : history.record = before ++ exchange :: after) (calls : exchange.call? = some call) :
    ∃ earlier turn, turnsIn before = earlier ++ [turn] ∧ turn.component = call.component ∧
      (WorkingSet.ofList snapshot).get? turn.name = some call.component ∧
      (∀ other ∈ earlier, other ∈ turnsIn history.record) ∧
      (¬ OnCircle edges (snapshot.map (·.name)) turn.name →
        ∀ other, other ≠ turn.name →
          ReflTransGen (Leads edges (snapshot.map (·.name))) turn.name other →
          ∃ settled ∈ earlier, settled.name = other ∧ settled.IsSettled ∧
            (WorkingSet.ofList snapshot).get? other = some settled.component) := by
  obtain ⟨earlier, turn, turns, own, kept, whole, rest, names⟩ :=
    exists_turn_of_call history.strays_record place calls
  obtain ⟨final, inRecord, same⟩ := List.mem_map.mp whole
  have stands := (history.turn_of_mem inRecord).1
  obtain ⟨sameName, sameComponent⟩ := Member.mk.inj same
  rw [sameName, sameComponent, own] at stands
  refine ⟨earlier, turn, turns, own, stands, kept, fun straight other different reaches => ?_⟩
  have ordered := history.ordered fixed
  unfold Descent.Ordered at ordered
  rw [leads_congr (WorkingSet.mem_names_ofList snapshot)] at ordered
  rw [List.append_assoc] at names
  obtain ⟨settled, there, rfl⟩ := List.mem_map.mp
    (Descent.Ordered.precedes ordered names.symm straight reaches different)
  have inTurns := kept settled there
  exact ⟨settled, there, rfl, history.isSettled_of_mem inTurns, (history.turn_of_mem inTurns).1⟩

/-! ### What fixes the order of the turns -/

/-- With fixed phases, rounds of the same groups sort them in the same way. -/
theorem sorted_unique {phase : Component → Int} {rounds others : List StopRound}
    (runs : ∀ round ∈ rounds, round.Runs) (runsOthers : ∀ round ∈ others, round.Runs)
    (kept : ∀ round ∈ rounds, ∀ exchange ∈ round.opening, exchange.KeepsPhases phase)
    (keptOthers : ∀ round ∈ others, ∀ exchange ∈ round.opening, exchange.KeepsPhases phase)
    (same : others.map (·.group) = rounds.map (·.group)) :
    others.map (·.sorted) = rounds.map (·.sorted) := by
  induction rounds generalizing others with
  | nil =>
    obtain rfl : others = [] := List.map_eq_nil_iff.mp same
    rfl
  | cons round rounds inductionHypothesis =>
    cases others with
    | nil => cases same
    | cons other others =>
      obtain ⟨sameGroup, sameGroups⟩ := List.cons.inj same
      obtain ⟨sorting, inOpening, sorts⟩ := (runs round List.mem_cons_self).sorting
      obtain ⟨sortingOther, inOpeningOther, sortsOther⟩ :=
        (runsOthers other List.mem_cons_self).sorting
      have sameGroup : other.group = round.group := sameGroup
      rw [sameGroup] at sortsOther
      have first : other.sorted = round.sorted :=
        Yields.unique_of_phases (round.group.asks_descending fun _ => trivial)
          sorts (fun exchange there => kept round List.mem_cons_self exchange (inOpening _ there))
          sortsOther fun exchange there =>
            keptOthers other List.mem_cons_self exchange (inOpeningOther _ there)
      have rest := inductionHypothesis
        (fun round there => runs round (List.mem_cons_of_mem _ there))
        (fun round there => runsOthers round (List.mem_cons_of_mem _ there))
        (fun round there => kept round (List.mem_cons_of_mem _ there))
        (fun round there => keptOthers round (List.mem_cons_of_mem _ there)) sameGroups
      rw [List.map_cons, List.map_cons, first, rest]

/-- With fixed phases, two passes over one snapshot follow dependents from the same names. -/
theorem roots_unique {phase : Component → Int} (other : StopHistory snapshot timeout)
    (kept : ∀ exchange ∈ history.record, exchange.KeepsPhases phase)
    (keptOther : ∀ exchange ∈ other.record, exchange.KeepsPhases phase) :
    other.roots = history.roots := by
  have groups : other.groups = history.groups :=
    Yields.unique_of_phases (asks_gathering (fun _ => trivial) (fun auto => Bool.noConfusion auto) _ _)
      history.gathered (fun exchange there => kept exchange (List.mem_append_left _ there))
      other.gathered fun exchange there => keptOther exchange (List.mem_append_left _ there)
  have opening : ∀ history : StopHistory snapshot timeout,
      (∀ exchange ∈ history.record, exchange.KeepsPhases phase) →
      ∀ round ∈ history.rounds, ∀ exchange ∈ round.opening, exchange.KeepsPhases phase :=
    fun history kept round inRounds exchange there => kept exchange (List.mem_append_right _
      (List.mem_flatMap.mpr ⟨round, inRounds, List.mem_append_left _ there⟩))
  have sorted := sorted_unique (fun _ => history.runs_of_mem) (fun _ => other.runs_of_mem)
    (opening history kept) (opening other keptOther)
    (by rw [history.chained.groups_eq, other.chained.groups_eq, groups])
  have all : ∀ rounds : List StopRound,
      (rounds.flatMap fun round => round.sorted.members.map (·.name)) =
        (rounds.map (·.sorted)).flatMap fun group => group.members.map (·.name) :=
    fun rounds => by rw [List.flatMap_map]
  rw [roots, roots, all, all, sorted]

/-- If two passes have turns of the same names, and find the same ones running, they stop the same
components in the same order. -/
theorem stopsIn_congr (other : StopHistory snapshot timeout)
    (names : (turnsIn other.record).map (·.name) = (turnsIn history.record).map (·.name))
    (ran : (turnsIn other.record).map (·.ran) = (turnsIn history.record).map (·.ran)) :
    stopsIn other.record = stopsIn history.record := by
  have read : ∀ turns : List Turn,
      (∀ turn ∈ turns, (WorkingSet.ofList snapshot).get? turn.name = some turn.component) →
      (turns.filter (·.ran)).map (·.component) =
        (((turns.map (·.name)).zip (turns.map (·.ran))).filter (·.2)).filterMap fun entry =>
          (WorkingSet.ofList snapshot).get? entry.1 := by
    intro turns
    induction turns with
    | nil => exact fun _ => rfl
    | cons turn turns inductionHypothesis =>
      intro stands
      have rest := inductionHypothesis fun other there => stands other (List.mem_cons_of_mem _ there)
      cases running : turn.ran with
      | false => simpa [running] using rest
      | true => simpa [running, stands turn List.mem_cons_self] using rest
  rw [history.stopsIn_record, other.stopsIn_record,
    read _ fun turn there => (history.turn_of_mem there).1,
    read _ fun turn there => (other.turn_of_mem there).1, names, ran]

end StopHistory

/-! ### The order of stops -/

/-- Every call of a stop pass falls in the turn of a name that stands for the component. If that name
lies on no circle of dependents among the names of the snapshot, then whatever depends on it, directly
or through others, had its turn before: it did not run, or it was called to stop just once and the
call has returned. The registry answers each question in one way throughout the pass; phases, running
components and what the calls answer are as they may be.

No call keeps a turn away: there is one for every name of the snapshot. Nor does a call move one: two
passes over the snapshot, with the same dependents and the same phases, have their turns in the same
order, and where these find the same components running, the passes stop the same components in the
same order. -/
theorem stopPass_stops_dependents_first {snapshot : List Member} {timeout : Nat}
    {record : List Exchange} {report : StopReport}
    (yields : (stopPass snapshot timeout).Yields record report)
    {edges : String → List String} (fixed : ∀ exchange ∈ record, exchange.KeepsDependents edges) :
    (∀ before exchange after call, record = before ++ exchange :: after →
      exchange.call? = some call →
      ∃ earlier turn, turnsIn before = earlier ++ [turn] ∧ turn.component = call.component ∧
        (WorkingSet.ofList snapshot).get? turn.name = some call.component ∧
        (¬ OnCircle edges (snapshot.map (·.name)) turn.name →
          ∀ other, other ≠ turn.name →
            ReflTransGen (Leads edges (snapshot.map (·.name))) turn.name other →
            ∃ settled ∈ earlier, settled.name = other ∧ settled.IsSettled ∧
              (WorkingSet.ofList snapshot).get? other = some settled.component)) ∧
    ((turnsIn record).map (·.name)).Nodup ∧
    (∀ name ∈ snapshot.map (·.name), ∃ turn ∈ turnsIn record, turn.name = name ∧ turn.IsSettled) ∧
    (∀ phase otherRecord otherReport,
      (∀ exchange ∈ record, exchange.KeepsPhases phase) →
      (stopPass snapshot timeout).Yields otherRecord otherReport →
      (∀ exchange ∈ otherRecord, exchange.KeepsDependents edges) →
      (∀ exchange ∈ otherRecord, exchange.KeepsPhases phase) →
      (turnsIn otherRecord).map (·.name) = (turnsIn record).map (·.name) ∧
      ((turnsIn otherRecord).map (·.ran) = (turnsIn record).map (·.ran) →
        stopsIn otherRecord = stopsIn record)) := by
  obtain ⟨history, rfl, rfl⟩ := exists_stopHistory yields
  refine ⟨fun before exchange after call place calls => ?_, history.nodup_names_turnsIn,
    fun name listed => ?_, fun phase otherRecord otherReport kept otherYields otherFixed otherKept => ?_⟩
  · obtain ⟨earlier, turn, turns, own, stands, -, settled⟩ := history.settled_first fixed place calls
    exact ⟨earlier, turn, turns, own, stands, settled⟩
  · obtain ⟨turn, there, same⟩ := history.exists_turn_of_name listed
    rw [← history.turnsIn_record] at there
    exact ⟨turn, there, same, history.isSettled_of_mem there⟩
  · obtain ⟨other, rfl, rfl⟩ := exists_stopHistory otherYields
    have names : (turnsIn other.record).map (·.name) = (turnsIn history.record).map (·.name) := by
      rw [other.names_turnsIn otherFixed, history.names_turnsIn fixed,
        history.roots_unique other kept otherKept]
    exact ⟨names, history.stopsIn_congr other names⟩

/-- A site that a database of a later phase stops after, and two components that depend on each
other. -/
def siteAndPair : List Member :=
  [⟨"site", ⟨"site", .phased⟩⟩, ⟨"left", ⟨"left", .smart⟩⟩, ⟨"right", ⟨"right", .plain⟩⟩,
    ⟨"database", ⟨"database", .smart⟩⟩]

/-- The site fails to stop with a reason, or stops. -/
def siteHabits (reason : Option String) : Habits where
  dependents name :=
    if name = "database" then ["site"] else if name = "left" then ["right"]
    else if name = "right" then ["left"] else []
  phase component := if component.key = "database" then 1 else 0
  refusal component := if component.key = "site" then reason else none
  delay := some 50

def siteStops (reason : Option String) : List Exchange :=
  (siteHabits reason).record (siteAndPair.map Member.component) (stopPass siteAndPair 100)

theorem site_stops_before_database :
    (∃ earlier turn, turnsIn ((siteStops (some "boom")).take 16) = earlier ++ [turn] ∧
      turn.name = "database" ∧ ∃ settled ∈ earlier, settled.name = "site" ∧ settled.IsSettled) ∧
    stopsIn (siteStops none) = stopsIn (siteStops (some "boom")) := by
  have stops : siteStops (some "boom") = (siteStops (some "boom")).take 16 ++
      ⟨.stopAsync ⟨"database", .smart⟩ ⟨1, "database"⟩, none, [], 0⟩ ::
        (siteStops (some "boom")).drop 17 := by cbv
  have latest : ((turnsIn ((siteStops (some "boom")).take 16)).map (·.name)).getLast? =
      some "database" := by cbv
  have straight :
      ¬ OnCircle (siteHabits (some "boom")).dependents (siteAndPair.map (·.name)) "database" := by
    intro circle
    obtain ⟨next, edge, back⟩ := TransGen.head'_iff.mp circle
    obtain rfl : next = "site" := by simpa [Leads, siteHabits] using edge.2.2
    rcases ReflTransGen.cases_head back with same | ⟨_, edge, -⟩
    · exact absurd same (by decide)
    · exact absurd edge.2.2 List.not_mem_nil
  obtain ⟨settles, -, -, steady⟩ := stopPass_stops_dependents_first
    ((siteHabits (some "boom")).yields_record _ (stopPass siteAndPair 100))
    (Habits.keepsDependents_record _ _ _)
  obtain ⟨-, same⟩ := steady (siteHabits none).phase _ _ (Habits.keepsPhases_record _ _ _)
    ((siteHabits none).yields_record (siteAndPair.map Member.component) _)
    (Habits.keepsDependents_record _ _ _) (Habits.keepsPhases_record _ _ _)
  refine ⟨?_, same (by cbv)⟩
  obtain ⟨earlier, turn, turns, -, -, settled⟩ := settles _ _ _ _ stops rfl
  have its : turn.name = "database" := by
    have turns : turnsIn ((siteStops (some "boom")).take 16) = earlier ++ [turn] := turns
    rw [turns] at latest
    simpa using latest
  rw [its] at settled
  obtain ⟨site, there, name, isSettled, -⟩ := settled straight "site" (by decide)
    (ReflTransGen.single ⟨by decide, by decide, by decide⟩)
  exact ⟨earlier, turn, turns, its, site, there, name, isSettled⟩

end PhasedLifecycle
