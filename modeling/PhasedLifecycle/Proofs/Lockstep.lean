/-
This file sets two runs of one pass side by side, in surroundings that are the same but for signals
that are resolved too late. A barrier is over once a wait for it has ended at the deadline; what is
resolved for it afterwards is not seen of a run. If everything else is decided by what was seen so far,
and the pass does not ask after a barrier that is over, both runs ask the same questions, get the same
answers at the same instants, and end with the same value.

The step that carries this is `Surroundings.without_after`: leaving out what concerns the barriers that
are over, and then going through an exchange, is the same as going through it first. So the parts of
the two surroundings that count never part.
-/

import PhasedLifecycle.Proofs.Surroundings

namespace PhasedLifecycle

open Pass

/-! ### What is seen of a run -/

/-- The exchange without the resolutions for barriers that are over. -/
def Exchange.without (elapsed : List Nat) (exchange : Exchange) : Exchange :=
  { exchange with meanwhile := exchange.meanwhile.filter (·.signal.barrier ∉ elapsed) }

/-- The barrier for which an answer tells that the deadline has passed. -/
def Exchange.expired : Exchange → List Nat
  | ⟨.nextArrival barrier _, none, _, _⟩ => [barrier]
  | _ => []

/-- What was seen of a run so far: the barriers that are over, and the exchanges without what was
resolved too late. -/
structure Watch where
  elapsed : List Nat := []
  past : List Exchange := []

namespace Watch

/-- What was seen after one more exchange. -/
def after (watch : Watch) (exchange : Exchange) : Watch where
  elapsed := exchange.expired ++ watch.elapsed
  past := watch.past ++ [exchange.without watch.elapsed]

/-- What was seen after a record. -/
def afterAll (watch : Watch) (record : List Exchange) : Watch :=
  record.foldl after watch

theorem afterAll_append (watch : Watch) (first last : List Exchange) :
    watch.afterAll (first ++ last) = (watch.afterAll first).afterAll last :=
  List.foldl_append

/-- The component was asked to stop in the background, and the barrier of its signal is over. -/
def IsLate (watch : Watch) (component : Component) : Prop :=
  ∃ exchange ∈ watch.past, ∃ signal, exchange.request = .stopAsync component signal ∧
    signal.barrier ∈ watch.elapsed

/-- A question that has to do neither with a barrier that is over nor with a component that is late
for it. -/
def Heeds (watch : Watch) : Request → Prop
  | .arrivals barrier => barrier ∉ watch.elapsed
  | .nextArrival barrier _ => barrier ∉ watch.elapsed
  | .stopAsync _ signal => signal.barrier ∉ watch.elapsed
  | .isRunning component => ¬ watch.IsLate component
  | _ => True

/-- All questions of a record are such when they are asked. -/
def HeedsAll (watch : Watch) : List Exchange → Prop
  | [] => True
  | exchange :: record => watch.Heeds exchange.request ∧ (watch.after exchange).HeedsAll record

theorem heedsAll_append {watch : Watch} {first last : List Exchange} :
    watch.HeedsAll (first ++ last) ↔
      watch.HeedsAll first ∧ (watch.afterAll first).HeedsAll last := by
  induction first generalizing watch with
  | nil => exact (and_iff_right trivial).symm
  | cons exchange first inductionHypothesis =>
    rw [List.cons_append, HeedsAll, HeedsAll, inductionHypothesis, and_assoc]
    rfl

end Watch

/-! ### One script for several runs -/

/-- Surroundings as far as they do not depend on what is resolved too late: what components and the
registry answer, which signals are resolved before an answer, and when the answer comes, each decided
by what was seen so far. -/
structure Script where
  answer : List Exchange → (request : Request) → request.Answer
  resolved : List Exchange → Request → List Resolution
  instant : List Exchange → Request → Nat

namespace Script

/-- An answer is as the script has it. What a barrier hears, and what the time is then, is up to the
signals; a component that is late may run or not, as its signal may be resolved or not; and a mark is
not that of a barrier that is over. -/
def Tells (script : Script) (watch : Watch) : Exchange → Prop
  | ⟨.now, _, _, _⟩ => True
  | ⟨.nextArrival _ _, _, _, _⟩ => True
  | ⟨.arrivals barrier, _, _, instant⟩ => instant = script.instant watch.past (.arrivals barrier)
  | ⟨.isRunning component, ran, _, instant⟩ =>
    (¬ watch.IsLate component → ran = script.answer watch.past (.isRunning component)) ∧
      instant = script.instant watch.past (.isRunning component)
  | ⟨.barrierMark, mark, _, instant⟩ =>
    mark ∉ watch.elapsed ∧ mark = script.answer watch.past .barrierMark ∧
      instant = script.instant watch.past .barrierMark
  | ⟨request, answer, _, instant⟩ =>
    answer = script.answer watch.past request ∧ instant = script.instant watch.past request

/-- A record is as the script has it, but for what is resolved too late. -/
def Plays (script : Script) : Watch → List Exchange → Prop
  | _, [] => True
  | watch, exchange :: record =>
    (exchange.without watch.elapsed).meanwhile = script.resolved watch.past exchange.request ∧
      script.Tells watch exchange ∧ script.Plays (watch.after exchange) record

theorem plays_append {script : Script} {watch : Watch} {first last : List Exchange} :
    script.Plays watch (first ++ last) ↔
      script.Plays watch first ∧ script.Plays (watch.afterAll first) last := by
  induction first generalizing watch with
  | nil => exact (and_iff_right trivial).symm
  | cons exchange first inductionHypothesis =>
    rw [List.cons_append, Plays, Plays, inductionHypothesis]
    simp only [and_assoc]
    rfl

end Script

/-! ### The surroundings that count -/

namespace Surroundings

variable {surroundings other : Surroundings} {elapsed : List Nat} {watch : Watch}

/-- The surroundings without what concerns barriers that are over. -/
def without (elapsed : List Nat) (surroundings : Surroundings) : Surroundings where
  clock := surroundings.clock
  unresolved := surroundings.unresolved.filter (·.barrier ∉ elapsed)
  mail := surroundings.mail.filter (·.signal.barrier ∉ elapsed)

theorem mailFor_without {barrier : Nat} (counts : barrier ∉ elapsed) :
    (surroundings.without elapsed).mailFor barrier = surroundings.mailFor barrier := by
  rw [mailFor, mailFor, without, List.filter_filter]
  refine List.filter_congr fun resolution _ => ?_
  by_cases its : resolution.signal.barrier = barrier
  · simp [its, counts]
  · simp [its]

theorem without_without (more : List Nat) :
    (surroundings.without elapsed).without more = surroundings.without (more ++ elapsed) := by
  simp [without, List.filter_filter]

theorem mail_foldl_resolve (resolutions : List Resolution) (start : Surroundings) :
    (resolutions.foldl resolve start).mail = start.mail ++ resolutions := by
  induction resolutions generalizing start with
  | nil => exact (List.append_nil _).symm
  | cons resolution resolutions inductionHypothesis =>
    rw [List.foldl_cons, inductionHypothesis, resolve, List.append_assoc, List.singleton_append]

/-- What is resolved for barriers that are over closes no signal of another barrier. -/
theorem unresolved_foldl_resolve (elapsed : List Nat) (resolutions : List Resolution)
    {start finish : Surroundings}
    (same : start.unresolved.filter (·.barrier ∉ elapsed) = finish.unresolved) :
    (resolutions.foldl resolve start).unresolved.filter (·.barrier ∉ elapsed) =
      ((resolutions.filter (·.signal.barrier ∉ elapsed)).foldl resolve finish).unresolved := by
  induction resolutions generalizing start finish with
  | nil => exact same
  | cons resolution resolutions inductionHypothesis =>
    have closed : (start.resolve resolution).unresolved.filter (·.barrier ∉ elapsed) =
        finish.unresolved.erase resolution.signal := by
      rw [← same]
      exact List.erase_filter.symm
    by_cases late : resolution.signal.barrier ∈ elapsed
    · rw [List.foldl_cons, List.filter_cons_of_neg (by simpa using late)]
      refine inductionHypothesis (closed.trans (List.erase_of_not_mem fun there => ?_))
      rw [← same] at there
      exact of_decide_eq_true (List.mem_filter.mp there).2 late
    · rw [List.foldl_cons, List.filter_cons_of_pos (by simpa using late), List.foldl_cons]
      exact inductionHypothesis closed

theorem without_give {request : Request} (heeds : watch.Heeds request) :
    (surroundings.give request).without watch.elapsed =
      (surroundings.without watch.elapsed).give request := by
  cases request with
  | stopAsync component signal =>
    have counts : signal.barrier ∉ watch.elapsed := heeds
    simp [give, without, counts]
  | _ => rfl

/-- Leaving out what concerns barriers that are over makes no difference to an exchange that has not
to do with them. -/
theorem without_after {exchange : Exchange} (heeds : watch.Heeds exchange.request) :
    (surroundings.after exchange).without watch.elapsed =
      (surroundings.without watch.elapsed).after (exchange.without watch.elapsed) := by
  have given : (surroundings.give exchange.request).without watch.elapsed =
      (surroundings.without watch.elapsed).give exchange.request := without_give heeds
  have unresolved : (surroundings.meanwhile exchange).unresolved.filter (·.barrier ∉ watch.elapsed) =
      ((surroundings.without watch.elapsed).meanwhile (exchange.without watch.elapsed)).unresolved :=
    unresolved_foldl_resolve watch.elapsed exchange.meanwhile (congrArg (·.unresolved) given)
  have mail : (surroundings.meanwhile exchange).mail.filter (·.signal.barrier ∉ watch.elapsed) =
      ((surroundings.without watch.elapsed).meanwhile (exchange.without watch.elapsed)).mail := by
    rw [meanwhile, meanwhile, mail_foldl_resolve, mail_foldl_resolve, List.filter_append]
    exact congrArg (· ++ _) (congrArg (·.mail) given)
  have heard : ((surroundings.meanwhile exchange).hear exchange).filter
      (·.signal.barrier ∉ watch.elapsed) =
        ((surroundings.without watch.elapsed).meanwhile (exchange.without watch.elapsed)).hear
          (exchange.without watch.elapsed) := by
    obtain ⟨request, answer, resolutions, instant⟩ := exchange
    cases request with
    | arrivals barrier =>
      show ((surroundings.meanwhile _).mail.filter (·.signal.barrier ≠ barrier)).filter _ =
        ((surroundings.without watch.elapsed).meanwhile _).mail.filter (·.signal.barrier ≠ barrier)
      rw [← mail, List.filter_filter, List.filter_filter]
      exact List.filter_congr fun resolution _ => Bool.and_comm _ _
    | nextArrival barrier deadline =>
      cases answer with
      | none => exact mail
      | some arrival =>
        have counts : barrier ∉ watch.elapsed := heeds
        have both : (fun resolution : Resolution => decide (resolution.signal.barrier = barrier) &&
            decide (resolution.signal.barrier ∉ watch.elapsed)) =
              fun resolution => decide (resolution.signal.barrier = barrier) := by
          funext resolution
          by_cases its : resolution.signal.barrier = barrier
          · simp [its, counts]
          · simp [its]
        show ((surroundings.meanwhile _).mail.eraseP (·.signal.barrier = barrier)).filter _ =
          ((surroundings.without watch.elapsed).meanwhile _).mail.eraseP (·.signal.barrier = barrier)
        rw [← mail, List.eraseP_filter, both]
    | _ => exact mail
  exact congr (congrArg (Surroundings.mk exchange.instant) unresolved) heard

/-- A barrier that is not over has the same news at the time of an answer. -/
theorem mailFor_meanwhile_congr {barrier : Nat} {first second : Exchange} (counts : barrier ∉ elapsed)
    (same : surroundings.without elapsed = other.without elapsed)
    (seen : (first.without elapsed).meanwhile = (second.without elapsed).meanwhile) :
    (surroundings.meanwhile first).mailFor barrier = (other.meanwhile second).mailFor barrier := by
  have resolved : ∀ exchange : Exchange,
      exchange.resolved barrier = (exchange.without elapsed).resolved barrier := by
    intro exchange
    show _ = (exchange.meanwhile.filter _).filter _
    rw [List.filter_filter]
    refine List.filter_congr fun resolution _ => ?_
    by_cases its : resolution.signal.barrier = barrier
    · simp [its, counts]
    · simp [its]
  rw [mailFor_meanwhile, mailFor_meanwhile, ← mailFor_without counts, same, mailFor_without counts,
    resolved first, resolved second, Exchange.resolved, Exchange.resolved, seen]

end Surroundings

/-! ### Side by side -/

/-- To a question that heeds what is over, there is one answer at one instant. What the script leaves
open is settled by the news of the barrier, and by the clock. -/
theorem Script.answer_unique {script : Script} {watch : Watch} {surroundings other : Surroundings}
    {request : Request} {answer answerOther : request.Answer}
    {meanwhile meanwhileOther : List Resolution} {instant instantOther : Nat} (heeds : watch.Heeds request)
    (same : surroundings.without watch.elapsed = other.without watch.elapsed)
    (seen : meanwhile.filter (·.signal.barrier ∉ watch.elapsed) =
      meanwhileOther.filter (·.signal.barrier ∉ watch.elapsed))
    (tells : script.Tells watch ⟨request, answer, meanwhile, instant⟩)
    (tellsOther : script.Tells watch ⟨request, answerOther, meanwhileOther, instantOther⟩)
    (allowed : surroundings.Allows (surroundings.meanwhile ⟨request, answer, meanwhile, instant⟩)
      ⟨request, answer, meanwhile, instant⟩)
    (allowedOther : other.Allows (other.meanwhile ⟨request, answerOther, meanwhileOther, instantOther⟩)
      ⟨request, answerOther, meanwhileOther, instantOther⟩) :
    answer = answerOther ∧ instant = instantOther := by
  have clock : surroundings.clock = other.clock := congrArg (·.clock) same
  have news : ∀ barrier, barrier ∉ watch.elapsed →
      (surroundings.meanwhile ⟨request, answer, meanwhile, instant⟩).mailFor barrier =
        (other.meanwhile ⟨request, answerOther, meanwhileOther, instantOther⟩).mailFor barrier :=
    fun barrier counts => Surroundings.mailFor_meanwhile_congr counts same seen
  cases request with
  | arrivals barrier =>
    have heard := allowed
    have heardOther := allowedOther
    rw [Surroundings.Allows] at heard heardOther
    exact ⟨by rw [heard, heardOther, news barrier heeds], tells.trans tellsOther.symm⟩
  | now =>
    obtain ⟨-, rfl, rfl⟩ := allowed
    obtain ⟨-, rfl, rfl⟩ := allowedOther
    exact ⟨clock, clock⟩
  | nextArrival barrier deadline =>
    have news := news barrier heeds
    cases answer with
    | none =>
      obtain ⟨unheard, rfl⟩ := allowed
      cases answerOther with
      | none =>
        obtain ⟨-, rfl⟩ := allowedOther
        exact ⟨rfl, by rw [clock]⟩
      | some arrival =>
        obtain ⟨resolution, later, first, -⟩ := allowedOther
        rw [← news, unheard] at first
        cases first
    | some arrival =>
      obtain ⟨resolution, later, first, rfl, rfl, -⟩ := allowed
      cases answerOther with
      | none =>
        obtain ⟨unheard, -⟩ := allowedOther
        rw [← news, first] at unheard
        cases unheard
      | some arrivalOther =>
        obtain ⟨resolutionOther, laterOther, firstOther, rfl, rfl, -⟩ := allowedOther
        rw [← news, first] at firstOther
        cases firstOther
        exact ⟨rfl, by rw [clock]⟩
  | isRunning component =>
    exact ⟨(tells.1 heeds).trans (tellsOther.1 heeds).symm, tells.2.trans tellsOther.2.symm⟩
  | barrierMark =>
    exact ⟨tells.2.1.trans tellsOther.2.1.symm, tells.2.2.trans tellsOther.2.2.symm⟩
  | _ => exact ⟨tells.1.trans tellsOther.1.symm, tells.2.trans tellsOther.2.symm⟩

/-- Two runs of a pass that play one script, in surroundings that are the same but for barriers that are
over, end with the same value, and nothing different is seen of them. The same being seen of both at
each step, the script goes on in the same way for both. -/
theorem Script.lockstep {Value : Type} {script : Script} {pass : Pass Value} {watch : Watch}
    {surroundings other : Surroundings} {first second : List Exchange} {value valueOther : Value}
    (yields : pass.Yields first value) (yieldsOther : pass.Yields second valueOther)
    (follows : surroundings.Follows first) (followsOther : other.Follows second)
    (plays : script.Plays watch first) (playsOther : script.Plays watch second)
    (same : surroundings.without watch.elapsed = other.without watch.elapsed)
    (heeds : watch.HeedsAll first) :
    value = valueOther ∧ watch.afterAll first = watch.afterAll second := by
  induction pass generalizing watch surroundings other first second with
  | done final =>
    obtain ⟨rfl, rfl⟩ := yields
    obtain ⟨rfl, rfl⟩ := yieldsOther
    exact ⟨rfl, rfl⟩
  | asking request next inductionHypothesis =>
    obtain ⟨answer, meanwhile, instant, rest, rfl, yields⟩ := yields
    obtain ⟨answerOther, meanwhileOther, instantOther, restOther, rfl, yieldsOther⟩ := yieldsOther
    obtain ⟨-, -, allowed, follows⟩ := follows
    obtain ⟨-, -, allowedOther, followsOther⟩ := followsOther
    obtain ⟨resolved, tells, plays⟩ := plays
    obtain ⟨resolvedOther, tellsOther, playsOther⟩ := playsOther
    obtain ⟨heedsNow, heeds⟩ := heeds
    have seen : meanwhile.filter (·.signal.barrier ∉ watch.elapsed) =
        meanwhileOther.filter (·.signal.barrier ∉ watch.elapsed) := resolved.trans resolvedOther.symm
    obtain ⟨rfl, rfl⟩ := Script.answer_unique heedsNow same seen tells tellsOther allowed
      allowedOther
    have without : (⟨request, answer, meanwhile, instant⟩ : Exchange).without watch.elapsed =
        (⟨request, answer, meanwhileOther, instant⟩ : Exchange).without watch.elapsed :=
      congrArg (fun kept => (⟨request, answer, kept, instant⟩ : Exchange)) seen
    have expired : (⟨request, answer, meanwhile, instant⟩ : Exchange).expired =
        (⟨request, answer, meanwhileOther, instant⟩ : Exchange).expired := by
      cases request with
      | nextArrival barrier deadline => cases answer <;> rfl
      | _ => rfl
    have watched : watch.after ⟨request, answer, meanwhile, instant⟩ =
        watch.after ⟨request, answer, meanwhileOther, instant⟩ := by
      rw [Watch.after, Watch.after, without, expired]
    have sameAfter : (surroundings.after ⟨request, answer, meanwhile, instant⟩).without
        (watch.after ⟨request, answer, meanwhile, instant⟩).elapsed =
          (other.after ⟨request, answer, meanwhileOther, instant⟩).without
            (watch.after ⟨request, answer, meanwhile, instant⟩).elapsed := by
      have afterOther : (other.after ⟨request, answer, meanwhileOther, instant⟩).without watch.elapsed =
          (other.without watch.elapsed).after
            ((⟨request, answer, meanwhileOther, instant⟩ : Exchange).without watch.elapsed) :=
        Surroundings.without_after heedsNow
      rw [Watch.after, ← Surroundings.without_without, ← Surroundings.without_without, afterOther,
        Surroundings.without_after heedsNow, same, without]
    rw [← watched] at playsOther
    obtain ⟨value, after⟩ := inductionHypothesis answer yields yieldsOther follows followsOther plays
      playsOther sameAfter heeds
    refine ⟨value, after.trans ?_⟩
    show _ = (watch.after _).afterAll restOther
    rw [← watched]

end PhasedLifecycle
