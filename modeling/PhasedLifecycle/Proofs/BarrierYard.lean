/-
This file follows any number of barriers at once, each from its making to the end of its wait and
beyond. Signals are given out by all of them, possibly under the same names, and are resolved whenever
their holders like. A resolution is told to every barrier there is; only the barrier of the signal takes
note of it. So no barrier can tell whether signals of another one are resolved, when, or how.

A wait here is the wait that a pass makes, taken event by event; `Berth.foldl_hear` says so.
-/

import Mathlib.Data.List.Induction
import PhasedLifecycle.Proofs.Waiting

namespace PhasedLifecycle

open Pass

/-! ### Where a barrier stands -/

/-- A `ShutdownBarrier` gives out signals, then it is waited for, then the wait has ended with an
outcome. -/
inductive Berth where
  | counting (barrier : Barrier)
  | waiting (wait : Wait)
  | ended (barrier : Barrier) (outcome : BarrierOutcome)

namespace Berth

/-- The mark, the count and the waiting list. -/
def barrier : Berth → Barrier
  | .counting barrier => barrier
  | .waiting wait => wait.barrier
  | .ended barrier _ => barrier

/-- Takes what has arrived, and goes on waiting unless nothing is awaited any more. -/
def ofWait (wait : Wait) : Berth :=
  if wait.takeArrived.isOver then .ended wait.takeArrived.barrier (wait.takeArrived.finish false)
  else .waiting wait.takeArrived

/-- Changes a barrier that nobody waits for yet. -/
def adjust (change : Barrier → Barrier) : Berth → Berth
  | .counting barrier => .counting (change barrier)
  | berth => berth

/-- Begins to wait. -/
def beginWait : Berth → Berth
  | .counting barrier => ofWait { barrier }
  | berth => berth

/-- Ends the wait at its deadline. -/
def expire : Berth → Berth
  | .waiting wait => .ended wait.barrier (wait.finish true)
  | berth => berth

/-- Is told of a resolution. -/
def receive (resolution : Resolution) : Berth → Berth
  | .counting barrier => .counting (barrier.receive resolution)
  | .waiting wait => ofWait { wait with barrier := wait.barrier.receive resolution }
  | .ended barrier outcome => .ended (barrier.receive resolution) outcome

/-- A barrier with a mark; while it is waited for, all that arrived is taken, and more is awaited. -/
def Bears (mark : Nat) : Berth → Prop
  | .waiting wait => wait.barrier.mark = mark ∧ wait.barrier.list.arrived = [] ∧
    0 < wait.barrier.remaining
  | berth => berth.barrier.mark = mark

variable {mark : Nat} {berth : Berth} {wait : Wait} {resolution : Resolution}

theorem mark_receive (barrier : Barrier) (resolution : Resolution) :
    (barrier.receive resolution).mark = barrier.mark := by
  unfold Barrier.receive
  split <;> rfl

theorem Bears.ofWait (marked : wait.barrier.mark = mark) : (ofWait wait).Bears mark := by
  unfold Berth.ofWait
  by_cases enough : wait.barrier.remaining ≤ wait.barrier.list.arrived.length
  · rw [if_pos (Wait.takeArrived_of_enough enough).1]
    exact marked
  · obtain ⟨more, taken⟩ := Wait.takeArrived_of_few (Nat.lt_of_not_le enough)
    rw [if_neg (by rw [more]; exact Bool.false_ne_true), taken]
    exact ⟨marked, rfl, Nat.sub_pos_of_lt (Nat.lt_of_not_le enough)⟩

/-- Of a signal of another barrier, a barrier takes no note. -/
theorem Bears.receive_of_ne (bears : berth.Bears mark) (foreign : resolution.signal.barrier ≠ mark) :
    berth.receive resolution = berth := by
  cases berth with
  | counting barrier =>
    have marked : barrier.mark = mark := bears
    exact congrArg Berth.counting (if_neg (by rw [marked]; exact foreign))
  | ended barrier outcome =>
    have marked : barrier.mark = mark := bears
    exact congrArg (Berth.ended · outcome) (if_neg (by rw [marked]; exact foreign))
  | waiting wait =>
    obtain ⟨marked, none, more⟩ := bears
    have unheard : wait.barrier.receive resolution = wait.barrier :=
      if_neg (by rw [marked]; exact foreign)
    obtain ⟨notOver, taken⟩ := Wait.takeArrived_of_few
      (show wait.barrier.list.arrived.length < wait.barrier.remaining by rw [none]; exact more)
    have same : wait.takeArrived = wait := by
      obtain ⟨⟨mark, remaining, ⟨unresolved, arrived⟩⟩, outcome⟩ := wait
      obtain rfl : arrived = [] := none
      exact taken
    show Berth.ofWait { wait with barrier := wait.barrier.receive resolution } = .waiting wait
    rw [unheard, Berth.ofWait, if_neg (by rw [notOver]; exact Bool.false_ne_true), same]

theorem Bears.receive (bears : berth.Bears mark) (resolution : Resolution) :
    (berth.receive resolution).Bears mark := by
  cases berth with
  | counting barrier => exact (mark_receive barrier resolution).trans bears
  | ended barrier outcome => exact (mark_receive barrier resolution).trans bears
  | waiting wait => exact Bears.ofWait ((mark_receive wait.barrier resolution).trans bears.1)

theorem Bears.adjust (bears : berth.Bears mark) {change : Barrier → Barrier}
    (keeps : ∀ barrier, (change barrier).mark = barrier.mark) : (berth.adjust change).Bears mark := by
  cases berth with
  | counting barrier => exact (keeps barrier).trans bears
  | _ => exact bears

theorem Bears.beginWait (bears : berth.Bears mark) : berth.beginWait.Bears mark := by
  cases berth with
  | counting barrier => exact Bears.ofWait bears
  | _ => exact bears

theorem Bears.expire (bears : berth.Bears mark) : berth.expire.Bears mark := by
  cases berth with
  | waiting wait => exact bears.1
  | _ => exact bears

/-! ### The wait of a pass -/

/-- What an answer to a wait is for the barrier that is waited for. -/
def hear (berth : Berth) : Exchange → Berth
  | ⟨.nextArrival barrier _, some arrival, _, _⟩ =>
    berth.receive ⟨⟨barrier, arrival.name⟩, arrival.ending, arrival.instant⟩
  | ⟨.nextArrival _ _, none, _, _⟩ => berth.expire
  | _ => berth

/-- The wait that a pass makes ends as the wait here does. -/
theorem foldl_hear {deadline questions : Nat} {record : List Exchange} {outcome : BarrierOutcome}
    (positive : 0 < questions)
    (often : wait.barrier.remaining < questions + wait.barrier.list.arrived.length)
    (yields : (Wait.run deadline questions wait).Yields record outcome) :
    ∃ barrier, record.foldl hear (ofWait wait) = .ended barrier outcome := by
  induction questions generalizing wait record with
  | zero => exact absurd positive (Nat.lt_irrefl 0)
  | succ questions inductionHypothesis =>
    unfold Berth.ofWait
    by_cases enough : wait.barrier.remaining ≤ wait.barrier.list.arrived.length
    · have elapsed := (Wait.takeArrived_of_enough enough).1
      rw [Wait.run, if_pos elapsed] at yields
      obtain ⟨rfl, rfl⟩ := yields
      exact ⟨_, if_pos elapsed⟩
    · have few := Nat.lt_of_not_le enough
      obtain ⟨more, taken⟩ := Wait.takeArrived_of_few few
      have goesOn : ¬ wait.takeArrived.isOver = true := by
        rw [more]
        exact Bool.false_ne_true
      rw [Wait.run, if_neg goesOn] at yields
      obtain ⟨answer, resolved, instant, rest, rfl, answered⟩ := yields_ask_bind.mp yields
      rw [if_neg goesOn, List.foldl_cons]
      cases answer with
      | none =>
        obtain ⟨rfl, rfl⟩ := answered
        exact ⟨_, rfl⟩
      | some arrival =>
        have heard : hear (.waiting wait.takeArrived)
            ⟨.nextArrival wait.takeArrived.barrier.mark deadline, some arrival, resolved, instant⟩ =
              ofWait { wait.takeArrived with
                barrier := wait.takeArrived.barrier.resolve arrival } :=
          congrArg (fun barrier => ofWait { wait.takeArrived with barrier }) (if_pos rfl)
        rw [heard]
        refine inductionHypothesis (by omega) ?_ answered
        rw [taken]
        dsimp only [Barrier.resolve, WaitingList.resolve]
        simp only [List.nil_append, List.length_singleton]
        omega

end Berth

/-! ### Barriers side by side -/

/-- What the owner of a barrier does with it. -/
inductive Act where
  | countDown
  | extend
  | issue (name : String)
  | beginWait
  | expire

/-- What becomes of the barrier. -/
def Act.apply : Act → Berth → Berth
  | .countDown, berth => berth.adjust Barrier.countDown
  | .extend, berth => berth.adjust Barrier.extend
  | .issue name, berth => berth.adjust (·.issue name)
  | .beginWait, berth => berth.beginWait
  | .expire, berth => berth.expire

theorem Act.bears_apply {mark : Nat} {berth : Berth} (bears : berth.Bears mark) (act : Act) :
    (act.apply berth).Bears mark := by
  cases act with
  | countDown => exact bears.adjust fun _ => rfl
  | extend => exact bears.adjust fun _ => rfl
  | issue name => exact bears.adjust fun _ => rfl
  | beginWait => exact bears.beginWait
  | expire => exact bears.expire

/-- What can happen to barriers. Each is known by its mark, the number of those made before it. -/
inductive Happening where
  | make (count : Nat)
  | own (mark : Nat) (act : Act)
  | resolve (resolution : Resolution)

namespace Happening

/-- What happens to the barrier with a mark. -/
def actOn (mark : Nat) (berth : Berth) : Happening → Berth
  | .make _ => berth
  | .own other act => if other = mark then act.apply berth else berth
  | .resolve resolution => berth.receive resolution

/-- The barriers that are made when there are some already. -/
def makes (marks : Nat) : Happening → List Berth
  | .make count => [.counting { mark := marks, remaining := count }]
  | _ => []

/-- A signal of another barrier is resolved. -/
def isForeign (mark : Nat) : Happening → Bool
  | .resolve resolution => decide (resolution.signal.barrier ≠ mark)
  | _ => false

theorem bears_actOn {mark : Nat} {berth : Berth} (bears : berth.Bears mark) (happening : Happening) :
    (happening.actOn mark berth).Bears mark := by
  cases happening with
  | make count => exact bears
  | resolve resolution => exact bears.receive resolution
  | own other act =>
    rw [actOn]
    split
    · exact act.bears_apply bears
    · exact bears

theorem actOn_of_isForeign {mark : Nat} {berth : Berth} (bears : berth.Bears mark)
    {happening : Happening} (foreign : happening.isForeign mark = true) :
    happening.actOn mark berth = berth := by
  cases happening with
  | resolve resolution => exact bears.receive_of_ne (of_decide_eq_true foreign)
  | _ => cases foreign

theorem makes_of_isForeign {mark : Nat} {happening : Happening}
    (foreign : happening.isForeign mark = true) (marks : Nat) : happening.makes marks = [] := by
  cases happening with
  | resolve resolution => rfl
  | _ => cases foreign

end Happening

/-- Barriers in the order of their making: any number of instances of `ShutdownBarrier`. -/
abbrev Yard := List Berth

namespace Yard

/-- What happens happens to each barrier, and may make one more. -/
def step (yard : Yard) (happening : Happening) : Yard :=
  yard.mapIdx (fun mark berth => happening.actOn mark berth) ++ happening.makes yard.length

/-- The barriers after what happened, beginning with none. -/
def after (happenings : List Happening) : Yard :=
  happenings.foldl step []

theorem after_append_singleton (happenings : List Happening) (happening : Happening) :
    after (happenings ++ [happening]) = (after happenings).step happening :=
  List.foldl_append

theorem getElem?_step (yard : Yard) (happening : Happening) (mark : Nat) :
    (yard.step happening)[mark]? =
      if mark < yard.length then yard[mark]?.map (happening.actOn mark ·)
      else (happening.makes yard.length)[mark - yard.length]? := by
  rw [step, List.getElem?_append, List.length_mapIdx, List.getElem?_mapIdx]

/-- Each barrier bears its mark. -/
theorem bears_after (happenings : List Happening) {mark : Nat} {berth : Berth}
    (there : (after happenings)[mark]? = some berth) : berth.Bears mark := by
  induction happenings using List.reverseRecOn generalizing berth with
  | nil => cases there
  | append_singleton happenings happening inductionHypothesis =>
    rw [after_append_singleton, getElem?_step] at there
    by_cases old : mark < (after happenings).length
    · rw [if_pos old] at there
      obtain ⟨before, found, rfl⟩ := Option.map_eq_some_iff.mp there
      exact Happening.bears_actOn (inductionHypothesis found) happening
    · rw [if_neg old] at there
      cases happening with
      | make count =>
        obtain ⟨last, found⟩ := List.getElem?_eq_some_iff.mp there
        have last : mark - (after happenings).length < 1 := last
        have newest : (after happenings).length = mark := by omega
        have first : mark - (after happenings).length = 0 := by omega
        rw [first] at there
        cases there
        exact newest
      | _ => cases there

/-- However many barriers there are, and whatever happens to them: resolving signals of other barriers
changes nothing about a barrier, its count, its open names and the outcome of its wait among it, neither
while it is waited for nor before nor after. The length goes along in the induction, for it is the mark
of the next barrier. -/
theorem getElem?_after_filter (happenings : List Happening) (mark : Nat) :
    (after (happenings.filter fun happening => !happening.isForeign mark)).length =
        (after happenings).length ∧
      (after (happenings.filter fun happening => !happening.isForeign mark))[mark]? =
        (after happenings)[mark]? := by
  induction happenings using List.reverseRecOn with
  | nil => exact ⟨rfl, rfl⟩
  | append_singleton happenings happening inductionHypothesis =>
    obtain ⟨length, berth⟩ := inductionHypothesis
    rw [List.filter_append, after_append_singleton]
    cases foreign : happening.isForeign mark with
    | true =>
      have unmade := Happening.makes_of_isForeign foreign (after happenings).length
      rw [List.filter_cons_of_neg (by simp [foreign]), List.filter_nil, List.append_nil,
        length, berth, getElem?_step, unmade]
      refine ⟨by rw [step, unmade, List.append_nil, List.length_mapIdx], ?_⟩
      by_cases old : mark < (after happenings).length
      · rw [if_pos old]
        cases found : (after happenings)[mark]? with
        | none => rfl
        | some before =>
          exact congrArg some (Happening.actOn_of_isForeign (bears_after happenings found) foreign).symm
      · rw [if_neg old, List.getElem?_eq_none (Nat.le_of_not_lt old)]
        rfl
    | false =>
      rw [List.filter_cons_of_pos (by simp [foreign]), List.filter_nil, after_append_singleton,
        getElem?_step, getElem?_step, length, berth]
      refine ⟨?_, rfl⟩
      rw [step, step, List.length_append, List.length_append, List.length_mapIdx,
        List.length_mapIdx, length]

end Yard

end PhasedLifecycle
