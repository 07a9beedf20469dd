/-
This file shows what has finished when a stop pass asks a component to stop. Whatever depends on the
component had its turn before; but a turn that hands out a signal does not wait for it, because the
signals of a round are awaited together, at its end. So a dependent may still be stopping if its signal
was given out in the same round. One of an earlier round has finished, or the wait of its round lasted
for the whole timeout.
-/

import PhasedLifecycle.Proofs.DependentsFirst
import PhasedLifecycle.Proofs.PhaseBarrier

namespace PhasedLifecycle

open Pass Relation

/-! ### Components that have finished -/

/-- The component of the turn did not run, or the call to stop it has returned, or it was given a signal
that is resolved in the record. -/
def Turn.HasFinishedIn (turn : Turn) (record : List Exchange) : Prop :=
  turn.ran = false ∨
  (∃ reason, turn.calls = [.stop turn.component reason]) ∨
  ∃ signal reason, turn.calls = [.stopAsync turn.component signal reason] ∧
    signal.IsResolvedIn record

/-- A settled turn has finished, or it gave out a signal that is not resolved. -/
theorem Turn.IsSettled.hasFinishedIn_or {turn : Turn} (settled : turn.IsSettled)
    (record : List Exchange) :
    turn.HasFinishedIn record ∨
      ∃ signal reason, turn.calls = [.stopAsync turn.component signal reason] ∧
        ¬ signal.IsResolvedIn record := by
  rcases settled with ⟨idle, -⟩ | ⟨-, -, reason, calls⟩ | ⟨-, -, signal, reason, calls⟩
  · exact Or.inl (Or.inl idle)
  · exact Or.inl (Or.inr (Or.inl ⟨reason, calls⟩))
  · by_cases resolved : signal.IsResolvedIn record
    · exact Or.inl (Or.inr (Or.inr ⟨signal, reason, calls, resolved⟩))
    · exact Or.inr ⟨signal, reason, calls, resolved⟩

/-- Whenever a stop pass asks a component to stop, whatever depends on its name, directly or through
others, has had its turn, if the name lies on no circle of dependents. It has finished: it did not run,
or the call to stop it has returned, or its signal is resolved. If it has not, then its signal was given
out in the traversal of a round before, whose wait lasted for the whole timeout, or earlier in the
traversal under way, in front of the wait for it. The registry answers each question in one way
throughout the pass; the length of a snapshot is a word of 64 bits. -/
theorem stopPass_finishes_dependents_of_earlier_rounds {snapshot : List Member} {timeout : Nat}
    {record : List Exchange} {report : StopReport} {surroundings : Surroundings}
    (few : snapshot.length < 0x10000000000000000)
    (yields : (stopPass snapshot timeout).Yields record report)
    (follows : surroundings.Follows record)
    {edges : String → List String} (fixed : ∀ exchange ∈ record, exchange.KeepsDependents edges) :
    ∃ history : StopHistory snapshot timeout, history.record = record ∧ history.report = report ∧
      ∀ before exchange after call, record = before ++ exchange :: after →
        exchange.call? = some call →
        ∃ earlier calling later done rest, history.rounds = earlier ++ calling :: later ∧
          calling.traversal = done ++ exchange :: rest ∧
          before = history.recordBefore earlier ++ (calling.opening ++ done) ∧
          ∃ sofar turn, turnsIn before = sofar ++ [turn] ∧ turn.component = call.component ∧
            (WorkingSet.ofList snapshot).get? turn.name = some call.component ∧
            (¬ OnCircle edges (snapshot.map (·.name)) turn.name →
              ∀ other, other ≠ turn.name →
                ReflTransGen (Leads edges (snapshot.map (·.name))) turn.name other →
                ∃ dependent ∈ sofar, dependent.name = other ∧
                  (WorkingSet.ofList snapshot).get? other = some dependent.component ∧
                  (dependent.HasFinishedIn before ∨
                    ∃ signal reason,
                      dependent.calls = [.stopAsync dependent.component signal reason] ∧
                      ((∃ issuing ∈ earlier, history.WaitsOut surroundings issuing ∧
                          .stopAsync dependent.component signal reason ∈ callsIn issuing.traversal) ∨
                        .stopAsync dependent.component signal reason ∈ callsIn done))) := by
  obtain ⟨history, rfl, rfl⟩ := exists_stopHistory yields
  refine ⟨history, rfl, rfl, fun before exchange after call place calls => ?_⟩
  obtain ⟨sofar, turn, turns, own, stands, -, first⟩ := history.settled_first fixed place calls
  have straight : (({} : Docket).readAll before).strays = [] :=
    strays_of_append (place ▸ history.strays_record)
  obtain ⟨earlier, calling, later, done, rest, rounds, traversal, rfl⟩ :=
    history.place_of_call place calls
  refine ⟨earlier, calling, later, done, rest, rounds, traversal, rfl, sofar, turn, turns, own, stands,
    fun acyclic other different reaches => ?_⟩
  obtain ⟨dependent, there, name, settled, itStands⟩ := first acyclic other different reaches
  refine ⟨dependent, there, name, itStands, ?_⟩
  refine (settled.hasFinishedIn_or _).imp_right fun ⟨signal, reason, called, unresolved⟩ =>
    ⟨signal, reason, called, ?_⟩
  have given : .stopAsync dependent.component signal reason ∈
      callsIn (history.recordBefore earlier ++ (calling.opening ++ done)) := by
    rw [← flatMap_calls_turnsIn straight, turns]
    exact List.mem_flatMap.mpr ⟨dependent, List.mem_append_left _ there,
      called ▸ List.mem_singleton.mpr rfl⟩
  rw [history.callsIn_before done rounds] at given
  refine (List.mem_append.mp given).imp_left fun inEarlier => ?_
  obtain ⟨issuing, isEarlier, issued⟩ := List.mem_flatMap.mp inEarlier
  have inRounds : issuing ∈ history.rounds := rounds ▸ List.mem_append_left _ isEarlier
  rcases history.resolved_or_pending few follows inRounds issued with resolved | ⟨waitsOut, -⟩
  · exact absurd (resolved.mono fun _ inside =>
      List.mem_append_left _ (history.record_subset_recordBefore isEarlier inside)) unresolved
  · exact ⟨issuing, isEarlier, waitsOut, issued⟩

/-- A mailer of a phase, which stops slowly, and the queue of phase zero that it depends on. -/
def mailerHabits (phase : Int) : Habits where
  dependents := queueDependents
  phase component := if component.key = "mailer" then phase else 0
  delay := some 50

def mailerStops (phase : Int) : List Exchange :=
  (mailerHabits phase).record (queueAndMailer.map Member.component) (stopPass queueAndMailer 100)

theorem not_onCircle_queueDependents (name : String) :
    ¬ OnCircle queueDependents (queueAndMailer.map (·.name)) name := by
  intro circle
  obtain ⟨next, edge, back⟩ := TransGen.head'_iff.mp circle
  have listed : next ∈ queueDependents name := edge.2.2
  unfold queueDependents at listed
  split at listed
  · rename_i same
    obtain rfl : next = "mailer" := List.mem_singleton.mp listed
    rcases ReflTransGen.cases_head back with back | ⟨_, edge, -⟩
    · rw [same] at back
      exact absurd back (by decide)
    · exact absurd edge.2.2 List.not_mem_nil
  · exact absurd listed List.not_mem_nil

theorem mailer_of_earlier_phase_finishes_first :
    ∃ history : StopHistory queueAndMailer 100, history.record = mailerStops 1 ∧
      ∃ earlier calling later done, history.rounds = earlier ++ calling :: later ∧
        (mailerStops 1).take 20 = history.recordBefore earlier ++ (calling.opening ++ done) ∧
        ∃ dependent ∈ turnsIn ((mailerStops 1).take 20), dependent.name = "mailer" ∧
          (dependent.HasFinishedIn ((mailerStops 1).take 20) ∨
            ∃ signal reason, dependent.calls = [.stopAsync dependent.component signal reason] ∧
              ((∃ issuing ∈ earlier, history.WaitsOut {} issuing ∧
                  .stopAsync dependent.component signal reason ∈ callsIn issuing.traversal) ∨
                .stopAsync dependent.component signal reason ∈ callsIn done)) := by
  have stops : mailerStops 1 = (mailerStops 1).take 20 ++
      ⟨.stopAsync ⟨"queue", .smart⟩ ⟨1, "queue"⟩, none, [], 50⟩ :: (mailerStops 1).drop 21 := by cbv
  have latest : ((turnsIn ((mailerStops 1).take 20)).map (·.name)).getLast? = some "queue" := by cbv
  obtain ⟨history, record, -, calls⟩ := stopPass_finishes_dependents_of_earlier_rounds (by decide)
    ((mailerHabits 1).yields_record (queueAndMailer.map Member.component) (stopPass queueAndMailer 100))
    (Habits.follows_record _ _ _) (Habits.keepsDependents_record _ _ _)
  obtain ⟨earlier, calling, later, done, rest, rounds, -, place, sofar, turn, turns, -, -, finishes⟩ :=
    calls _ _ _ _ stops rfl
  have its : turn.name = "queue" := by
    rw [turns] at latest
    simpa using latest
  rw [its] at finishes
  obtain ⟨dependent, there, name, -, finished⟩ := finishes (not_onCircle_queueDependents "queue")
    "mailer" (by decide) (ReflTransGen.single ⟨by decide, by decide, by decide⟩)
  exact ⟨history, record, earlier, calling, later, done, rounds, place, dependent,
    turns ▸ List.mem_append_left _ there, name, finished⟩

/-- In a phase of its own, the queue is asked to stop once the mailer has finished. In one phase with
the mailer, it is asked while the mailer is still stopping: the signal of the mailer is open, and no
wait has begun. -/
theorem mailer_of_same_phase_is_unfinished :
    (stopPass queueAndMailer 100).Yields (mailerStops 0)
      ((mailerHabits 0).value (queueAndMailer.map Member.component) (stopPass queueAndMailer 100)) ∧
    ({} : Surroundings).Follows (mailerStops 0) ∧
    (∀ exchange ∈ mailerStops 0, exchange.KeepsDependents queueDependents) ∧
    (∀ name, ¬ OnCircle queueDependents (queueAndMailer.map (·.name)) name) ∧
    Leads queueDependents (queueAndMailer.map (·.name)) "queue" "mailer" ∧
    mailerStops 0 = (mailerStops 0).take 15 ++
      ⟨.stopAsync ⟨"queue", .smart⟩ ⟨1, "queue"⟩, none, [], 0⟩ :: (mailerStops 0).drop 16 ∧
    (∃ mailer ∈ turnsIn ((mailerStops 0).take 15), mailer.name = "mailer" ∧
      ¬ mailer.HasFinishedIn ((mailerStops 0).take 15)) ∧
    ((turnsIn ((mailerStops 0).take 15)).map (·.name)).Nodup ∧
    ∀ exchange ∈ (mailerStops 0).take 15, exchange.request ≠ .now := by
  have turns : turnsIn ((mailerStops 0).take 15) =
      [⟨"mailer", ⟨"mailer", .smart⟩, true, none,
        [.stopAsync ⟨"mailer", .smart⟩ ⟨1, "mailer"⟩ none]⟩,
        ⟨"queue", ⟨"queue", .smart⟩, true, none, []⟩] := by cbv
  have unresolved : ((mailerStops 0).take 15).flatMap (·.meanwhile) = [] := by cbv
  refine ⟨Habits.yields_record _ _ _, Habits.follows_record _ _ _,
    Habits.keepsDependents_record _ _ _, not_onCircle_queueDependents,
    ⟨by decide, by decide, by decide⟩, by cbv, ?_, ?_, ?_⟩
  · rw [turns]
    refine ⟨_, List.mem_cons_self, rfl, ?_⟩
    rintro (idle | ⟨reason, calls⟩ | ⟨signal, reason, -, exchange, there, resolution, meanwhile, -⟩)
    · cases idle
    · cases calls
    · exact List.ne_nil_of_mem (List.mem_flatMap.mpr ⟨exchange, there, meanwhile⟩) unresolved
  · rw [turns]
    decide
  · have requests : ((mailerStops 0).take 15).all (·.request ≠ .now) = true := by cbv
    exact fun exchange there => of_decide_eq_true (List.all_eq_true.mp requests exchange there)

end PhasedLifecycle
