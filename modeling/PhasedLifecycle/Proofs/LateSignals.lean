/-
This file shows that late signals do not interfere. A signal that is still open when the wait of its
phase has ended at the deadline may be resolved at any later time, in either way, or never: a stop pass
makes the same calls at the same instants and returns the same report. And whatever happens to barriers
besides, none of them can tell whether the signals of another one are resolved.
-/

import PhasedLifecycle.Proofs.BarrierYard
import PhasedLifecycle.Proofs.Calls
import PhasedLifecycle.Proofs.OwnBarrier
import PhasedLifecycle.Proofs.PhaseBarrier

namespace PhasedLifecycle

open Pass

/-! ### Calls and their instants -/

/-- A call with the instant at which it was made and the one at which it ended. -/
structure TimedCall where
  call : Call
  begun : Nat
  ended : Nat
  deriving DecidableEq

/-- The calls in a record that begins at an instant, in their order. -/
def timedCalls (clock : Nat) : List Exchange → List TimedCall
  | [] => []
  | exchange :: record =>
    (exchange.call?.map fun call => ⟨call, clock, exchange.instant⟩).toList ++
      timedCalls exchange.instant record

theorem Exchange.call?_without (elapsed : List Nat) (exchange : Exchange) :
    (exchange.without elapsed).call? = exchange.call? := by
  obtain ⟨request, answer, meanwhile, instant⟩ := exchange
  cases request <;> rfl

/-- The calls of a run and their instants can be told from what is seen of it. -/
theorem Watch.exists_seen (watch : Watch) (clock : Nat) (record : List Exchange) :
    ∃ seen, (watch.afterAll record).past = watch.past ++ seen ∧
      timedCalls clock seen = timedCalls clock record := by
  induction record generalizing watch clock with
  | nil => exact ⟨[], (List.append_nil _).symm, rfl⟩
  | cons exchange record inductionHypothesis =>
    obtain ⟨seen, past, calls⟩ := inductionHypothesis (watch.after exchange) exchange.instant
    refine ⟨exchange.without watch.elapsed :: seen, past.trans (List.append_assoc _ _ _), ?_⟩
    rw [timedCalls, timedCalls, Exchange.call?_without]
    exact congrArg _ calls

/-! ### Non-interference -/

/-- Late signals do not interfere, where every name has a component of its own.

Two runs of a stop pass begin in the same surroundings and play one script, so that components, registry
and clock and every signal that is resolved before its phase is over do as they did whenever the same was
seen before; whether, when and how the others are resolved is left open, and with it whether their
components run. The runs end with equal reports, and make the same calls at the same instants.

And however many barriers are made, waited for and left, and whatever else happens to them: the barrier
with a mark stands where it would stand if no signal of another barrier was ever resolved. -/
theorem late_signals_do_not_interfere {snapshot : List Member} {timeout : Nat} {script : Script}
    {surroundings : Surroundings} {elapsed : List Nat} {first second : List Exchange}
    {report other : StopReport} (separate : (snapshot.map (·.component)).Nodup)
    (yields : (stopPass snapshot timeout).Yields first report)
    (yieldsOther : (stopPass snapshot timeout).Yields second other)
    (follows : surroundings.Follows first) (followsOther : surroundings.Follows second)
    (plays : script.Plays { elapsed } first) (playsOther : script.Plays { elapsed } second) :
    (report = other ∧
      timedCalls surroundings.clock first = timedCalls surroundings.clock second) ∧
    ∀ (happenings : List Happening) (mark : Nat), (Yard.after happenings)[mark]? =
      (Yard.after (happenings.filter fun happening => !happening.isForeign mark))[mark]? := by
  refine ⟨?_, fun happenings mark => (Yard.getElem?_after_filter happenings mark).2.symm⟩
  obtain ⟨sameReport, sameWatch⟩ := Script.lockstep yields yieldsOther follows followsOther plays
    playsOther rfl (heedsAll_stopPass separate yields plays)
  refine ⟨sameReport, ?_⟩
  obtain ⟨seen, past, calls⟩ := Watch.exists_seen { elapsed } surroundings.clock first
  obtain ⟨seenOther, pastOther, callsOther⟩ := Watch.exists_seen { elapsed } surroundings.clock second
  rw [sameWatch, pastOther] at past
  rw [← calls, ← callsOther, List.append_cancel_left past]

/-! ### Runs that can be checked -/

instance decidableEqAnswer : ∀ request : Request, DecidableEq request.Answer
  | .dependencies _ | .dependents _ => inferInstanceAs (DecidableEq (List String))
  | .isRunning _ | .isAutoStartup _ => inferInstanceAs (DecidableEq Bool)
  | .phase _ => inferInstanceAs (DecidableEq Int)
  | .start _ | .stop _ | .stopAsync _ _ => inferInstanceAs (DecidableEq (Option String))
  | .barrierMark | .now => inferInstanceAs (DecidableEq Nat)
  | .arrivals _ => inferInstanceAs (DecidableEq (List Arrival))
  | .nextArrival _ _ => inferInstanceAs (DecidableEq (Option Arrival))
  | .note _ => inferInstanceAs (DecidableEq Unit)

namespace Surroundings

instance decidableUndergoes : ∀ (surroundings : Surroundings) (resolutions : List Resolution),
    Decidable (surroundings.Undergoes resolutions)
  | _, [] => inferInstanceAs (Decidable True)
  | surroundings, resolution :: resolutions =>
    have := decidableUndergoes (surroundings.resolve resolution) resolutions
    inferInstanceAs (Decidable (_ ∧ _ ∧ _))

instance decidableAllows (asked answered : Surroundings) :
    ∀ exchange, Decidable (asked.Allows answered exchange)
  | ⟨.barrierMark, _, _, _⟩ => inferInstanceAs (Decidable (_ ∧ _))
  | ⟨.arrivals barrier, arrivals, _, _⟩ =>
    inferInstanceAs (Decidable (arrivals = (answered.mailFor barrier).map Resolution.arrival))
  | ⟨.now, now, resolved, instant⟩ =>
    inferInstanceAs (Decidable (resolved = [] ∧ now = asked.clock ∧ instant = asked.clock))
  | ⟨.nextArrival barrier deadline, some arrival, _, instant⟩ =>
    match news : answered.mailFor barrier with
    | [] => isFalse fun ⟨_, _, heard, _⟩ => by
      rw [news] at heard
      cases heard
    | resolution :: later =>
      decidable_of_iff (arrival = resolution.arrival ∧
        instant = max asked.clock resolution.instant ∧
          resolution.instant ≤ max asked.clock deadline)
        ⟨fun holds => ⟨resolution, later, news, holds⟩, fun ⟨first, rest, heard, holds⟩ => by
          rw [news] at heard
          cases heard
          exact holds⟩
  | ⟨.nextArrival barrier deadline, none, _, instant⟩ =>
    inferInstanceAs (Decidable (answered.mailFor barrier = [] ∧ instant = max asked.clock deadline))
  | ⟨.dependencies _, _, _, _⟩ | ⟨.dependents _, _, _, _⟩ | ⟨.isRunning _, _, _, _⟩
  | ⟨.isAutoStartup _, _, _, _⟩ | ⟨.phase _, _, _, _⟩ | ⟨.start _, _, _, _⟩ | ⟨.stop _, _, _, _⟩
  | ⟨.stopAsync _ _, _, _, _⟩ | ⟨.note _, _, _, _⟩ => inferInstanceAs (Decidable True)

instance decidableFollows : ∀ (surroundings : Surroundings) (record : List Exchange),
    Decidable (surroundings.Follows record)
  | _, [] => inferInstanceAs (Decidable True)
  | surroundings, exchange :: record =>
    have := decidableFollows (surroundings.after exchange) record
    inferInstanceAs (Decidable (_ ∧ _ ∧ _ ∧ _))

end Surroundings

instance decidableIsLate (watch : Watch) (component : Component) : Decidable (watch.IsLate component) :=
  decidable_of_iff
    (watch.past.any (fun exchange => match exchange.request with
      | .stopAsync asked signal => decide (asked = component ∧ signal.barrier ∈ watch.elapsed)
      | _ => false) = true) <| by
    rw [List.any_eq_true]
    refine exists_congr fun exchange => and_congr_right fun _ => ?_
    cases exchange.request with
    | stopAsync asked signal =>
      constructor
      · intro late
        obtain ⟨rfl, elapsed⟩ := of_decide_eq_true late
        exact ⟨signal, rfl, elapsed⟩
      · rintro ⟨_, same, late⟩
        cases same
        exact decide_eq_true ⟨rfl, late⟩
    | _ =>
      constructor
      · intro late
        cases late
      · rintro ⟨_, same, -⟩
        cases same

namespace Script

instance decidableTells (script : Script) (watch : Watch) :
    ∀ exchange, Decidable (script.Tells watch exchange)
  | ⟨.now, _, _, _⟩ | ⟨.nextArrival _ _, _, _, _⟩ => inferInstanceAs (Decidable True)
  | ⟨.arrivals _, _, _, _⟩ => inferInstanceAs (Decidable (_ = _))
  | ⟨.isRunning _, _, _, _⟩ => inferInstanceAs (Decidable ((¬ _ → _ = _) ∧ _ = _))
  | ⟨.barrierMark, _, _, _⟩ => inferInstanceAs (Decidable (_ ∧ _ = _ ∧ _ = _))
  | ⟨.dependencies _, _, _, _⟩ | ⟨.dependents _, _, _, _⟩ | ⟨.isAutoStartup _, _, _, _⟩
  | ⟨.phase _, _, _, _⟩ | ⟨.start _, _, _, _⟩ | ⟨.stop _, _, _, _⟩ | ⟨.stopAsync _ _, _, _, _⟩
  | ⟨.note _, _, _, _⟩ => inferInstanceAs (Decidable (_ = _ ∧ _ = _))

instance decidablePlays (script : Script) : ∀ (watch : Watch) (record : List Exchange),
    Decidable (script.Plays watch record)
  | _, [] => inferInstanceAs (Decidable True)
  | watch, exchange :: record =>
    have := decidablePlays script (watch.after exchange) record
    inferInstanceAs (Decidable (_ ∧ _ ∧ _))

end Script

/-- What is resolved before an answer makes no difference to the pass. -/
theorem Pass.Yields.modify {Value : Type} {pass : Pass Value} {record : List Exchange} {value : Value}
    (yields : pass.Yields record value) (index : Nat) (resolved : List Resolution) :
    pass.Yields (record.modify index fun exchange => { exchange with meanwhile := resolved }) value := by
  induction pass generalizing record index with
  | done final =>
    obtain ⟨rfl, rfl⟩ := yields
    exact ⟨List.modify_nil _ _, rfl⟩
  | asking request next inductionHypothesis =>
    obtain ⟨answer, meanwhile, instant, rest, rfl, yields⟩ := yields
    cases index with
    | zero => exact ⟨answer, resolved, instant, rest, rfl, yields⟩
    | succ index => exact ⟨answer, meanwhile, instant, _, rfl, inductionHypothesis answer yields index⟩

/-- What is decided about the slow queue and the site before the queue's phase is over, and about the
site afterwards. -/
def slowQueueScript : Script where
  answer past
    | .dependencies _ | .dependents _ => []
    | .isRunning _ | .isAutoStartup _ => true
    | .phase component => slowQueue.phase component
    | .start _ | .stop _ | .stopAsync _ _ => none
    | .barrierMark => past.countP (·.request = .barrierMark) + 1
    | .arrivals _ => []
    | .now => 0
    | .nextArrival _ _ => none
    | .note _ => ()
  resolved _ _ := []
  instant past _ := (past.getLast?.map (·.instant)).getD 0

/-- The slow queue drops its signal while the site is called. -/
def droppedQueueRecord : List Exchange :=
  slowQueueRecord.modify 19 fun exchange =>
    { exchange with meanwhile := [⟨⟨1, "queue"⟩, .abandoned, 100⟩] }

theorem nobody_notices_dropped_queue :
    resolvedIn 1 slowQueueRecord = [] ∧
    resolvedIn 1 droppedQueueRecord = [⟨⟨1, "queue"⟩, .abandoned, 100⟩] ∧
    timedCalls 0 slowQueueRecord = timedCalls 0 droppedQueueRecord := by
  have yields := slowQueue.yields_record (queueAndSite.map Member.component) (stopPass queueAndSite 100)
  have follows := slowQueue.follows_record (queueAndSite.map Member.component) (stopPass queueAndSite 100)
  have followsDropped : Surroundings.Follows {} droppedQueueRecord := by decide +kernel
  have plays : slowQueueScript.Plays {} slowQueueRecord := by decide +kernel
  have playsDropped : slowQueueScript.Plays {} droppedQueueRecord := by decide +kernel
  refine ⟨by decide +kernel, by decide +kernel, ?_⟩
  exact (late_signals_do_not_interfere (by decide) yields (yields.modify 19 _) follows followsDropped
    plays playsDropped).1.2

end PhasedLifecycle
