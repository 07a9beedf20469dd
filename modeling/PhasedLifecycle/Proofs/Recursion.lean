/-
This file shows that nothing but the working set bounds how deep a pass goes down from names, and
nothing but the count of a barrier how long a wait goes on. The programs carry a depth and a number of
questions, so that they end; but each step down takes a name out of the working set, and each arrival
brings the count down. So neither is ever used up, and the programs are the recursions without them.
-/

import PhasedLifecycle.Proofs.StartTraversal
import PhasedLifecycle.Proofs.StopTraversal

namespace PhasedLifecycle

open Pass

theorem WorkingSet.get?_eq_none_of_size {set : WorkingSet} (empty : set.size = 0) (name : String) :
    set.get? name = none := by
  refine (get?_eq_none_iff _ _).mpr fun there => ?_
  obtain ⟨member, inside, -⟩ := List.mem_map.mp there
  exact absurd (List.length_pos_of_mem inside) (Nat.not_lt.mpr (Nat.le_of_eq empty))

/-! ### Going down in a start pass -/

namespace Starting

variable {autoOnly : Bool} {starting : Starting} {name : String}

/-- What is left after a visit is no more than before. -/
theorem size_visit_le {depth : Nat} {result : Starting} {record : List Exchange}
    (yields : (visit autoOnly depth starting name).Yields record result) :
    result.left.size ≤ starting.left.size := by
  obtain ⟨_, _, span, -⟩ := StartSpan.visit yields
  rw [span.left]
  exact WorkingSet.size_without_le _ _

theorem visit_of_get?_eq_none (depth : Nat) (gone : starting.left.get? name = none) :
    visit autoOnly depth starting name = return starting := by
  cases depth with
  | zero => rfl
  | succ depth => cases unfailed : starting.failure <;> simp [visit, unfailed, gone]

/-- All depths that the working set allows make the same program. -/
theorem visit_eq_visit {depth other : Nat} (deep : starting.left.size ≤ depth)
    (deepOther : starting.left.size ≤ other) :
    visit autoOnly depth starting name = visit autoOnly other starting name := by
  induction depth generalizing starting name other with
  | zero =>
    have gone := WorkingSet.get?_eq_none_of_size (Nat.le_zero.mp deep) name
    rw [visit_of_get?_eq_none _ gone, visit_of_get?_eq_none _ gone]
  | succ depth inductionHypothesis =>
    cases found : starting.left.get? name with
    | none => rw [visit_of_get?_eq_none _ found, visit_of_get?_eq_none _ found]
    | some component =>
      have smaller := starting.left.size_erase_lt name (WorkingSet.mem_names_of_get? found)
      obtain ⟨other, rfl⟩ := Nat.exists_eq_succ_of_ne_zero (by omega : other ≠ 0)
      have below : ∀ dependencies : List String,
          dependencies.foldlM (visit autoOnly depth) { left := starting.left.erase name } =
            dependencies.foldlM (visit autoOnly other) { left := starting.left.erase name } :=
        fun dependencies => foldlM_congr_of_shrinks (·.left.size)
          (fun state next small => inductionHypothesis (small.trans (Nat.min_le_left depth other))
            (small.trans (Nat.min_le_right depth other)))
          size_visit_le dependencies (by dsimp only; omega)
      rw [visit, visit, found]
      cases starting.failure with
      | some error => rfl
      | none => exact congrArg (ask (.dependencies name) >>= ·) (funext fun dependencies => by rw [below])

/-- Going down from a name, with a way to go on from the names it depends on. -/
def goDown (autoOnly : Bool) (next : Starting → String → Pass Starting) (starting : Starting)
    (name : String) : Pass Starting :=
  match starting.failure, starting.left.get? name with
  | none, some component => do
    let dependencies ← ask (.dependencies name)
    let starting ← dependencies.foldlM next { starting with left := starting.left.erase name }
    if starting.failure.isSome then return starting
    turn autoOnly name component starting
  | _, _ => return starting

/-- To start what a name stands for is to go down from it, and to go on in the same way. -/
theorem start_eq_goDown (autoOnly : Bool) : start autoOnly = goDown autoOnly (start autoOnly) := by
  funext starting name
  show visit autoOnly starting.left.size starting name = _
  unfold goDown
  cases found : starting.left.get? name with
  | none =>
    rw [visit_of_get?_eq_none _ found]
    cases starting.failure <;> rfl
  | some component =>
    have smaller := starting.left.size_erase_lt name (WorkingSet.mem_names_of_get? found)
    obtain ⟨depth, size⟩ := Nat.exists_eq_succ_of_ne_zero (by omega : starting.left.size ≠ 0)
    have below : ∀ dependencies : List String,
        dependencies.foldlM (visit autoOnly depth) { left := starting.left.erase name } =
          dependencies.foldlM (start autoOnly) { left := starting.left.erase name } :=
      fun dependencies => foldlM_congr_of_shrinks (·.left.size)
        (fun state next small => visit_eq_visit small (Nat.le_refl _)) size_visit_le dependencies
        (by dsimp only; omega)
    rw [size, visit, found]
    cases starting.failure with
    | some error => rfl
    | none => exact congrArg (ask (.dependencies name) >>= ·) (funext fun dependencies => by rw [below])

end Starting

/-! ### Going down in a stop pass -/

namespace Stopping

variable {members : List String} {stopping : Stopping} {name : String}

/-- What is left after a visit is no more than before. -/
theorem size_visit_le {depth : Nat} {result : Stopping} {record : List Exchange}
    (yields : (visit members depth stopping name).Yields record result) :
    result.left.size ≤ stopping.left.size := by
  obtain ⟨_, span, -⟩ := StopSpan.visit yields
  rw [span.left]
  exact WorkingSet.size_without_le _ _

theorem visit_of_get?_eq_none (depth : Nat) (gone : stopping.left.get? name = none) :
    visit members depth stopping name = return stopping := by
  cases depth with
  | zero => rfl
  | succ depth => rw [visit, gone]

/-- All depths that the working set allows make the same program. -/
theorem visit_eq_visit {depth other : Nat} (deep : stopping.left.size ≤ depth)
    (deepOther : stopping.left.size ≤ other) :
    visit members depth stopping name = visit members other stopping name := by
  induction depth generalizing stopping name other with
  | zero =>
    have gone := WorkingSet.get?_eq_none_of_size (Nat.le_zero.mp deep) name
    rw [visit_of_get?_eq_none _ gone, visit_of_get?_eq_none _ gone]
  | succ depth inductionHypothesis =>
    cases found : stopping.left.get? name with
    | none => rw [visit_of_get?_eq_none _ found, visit_of_get?_eq_none _ found]
    | some component =>
      have smaller := stopping.left.size_erase_lt name (WorkingSet.mem_names_of_get? found)
      obtain ⟨other, rfl⟩ := Nat.exists_eq_succ_of_ne_zero (by omega : other ≠ 0)
      have below : ∀ dependents : List String,
          dependents.foldlM (visit members depth)
              { stopping with left := stopping.left.erase name } =
            dependents.foldlM (visit members other)
              { stopping with left := stopping.left.erase name } :=
        fun dependents => foldlM_congr_of_shrinks (·.left.size)
          (fun state next small => inductionHypothesis (small.trans (Nat.min_le_left depth other))
            (small.trans (Nat.min_le_right depth other)))
          size_visit_le dependents (by dsimp only; omega)
      rw [visit, visit, found]
      exact congrArg (ask (.dependents name) >>= ·) (funext fun dependents => by rw [below])

/-- Going down from a name, with a way to go on from the names that depend on it. -/
def goDown (members : List String) (next : Stopping → String → Pass Stopping) (stopping : Stopping)
    (name : String) : Pass Stopping :=
  match stopping.left.get? name with
  | none => return stopping
  | some component => do
    let dependents ← ask (.dependents name)
    let stopping ← dependents.foldlM next { stopping with left := stopping.left.erase name }
    turn members name component stopping

/-- To stop what a name stands for is to go down from it, and to go on in the same way. -/
theorem stop_eq_goDown (members : List String) : stop members = goDown members (stop members) := by
  funext stopping name
  show visit members stopping.left.size stopping name = _
  unfold goDown
  cases found : stopping.left.get? name with
  | none => exact visit_of_get?_eq_none _ found
  | some component =>
    have smaller := stopping.left.size_erase_lt name (WorkingSet.mem_names_of_get? found)
    obtain ⟨depth, size⟩ := Nat.exists_eq_succ_of_ne_zero (by omega : stopping.left.size ≠ 0)
    have below : ∀ dependents : List String,
        dependents.foldlM (visit members depth) { stopping with left := stopping.left.erase name } =
          dependents.foldlM (stop members) { stopping with left := stopping.left.erase name } :=
      fun dependents => foldlM_congr_of_shrinks (·.left.size)
        (fun state next small => visit_eq_visit small (Nat.le_refl _)) size_visit_le dependents
        (by dsimp only; omega)
    rw [size, visit, found]
    exact congrArg (ask (.dependents name) >>= ·) (funext fun dependents => by rw [below])

end Stopping

/-! ### Waiting for signals -/

namespace Wait

variable {deadline : Nat} {wait : Wait}

/-- If a wait is not over once it has taken what has arrived, more was awaited than that; and of the
next arrival it has not taken anything yet. -/
theorem takeArrived_resolve (goesOn : wait.takeArrived.isOver = false) (arrival : Arrival) :
    (wait.takeArrived.barrier.resolve arrival).remaining + wait.barrier.list.arrived.length =
        wait.barrier.remaining ∧
      wait.barrier.list.arrived.length < wait.barrier.remaining ∧
      (wait.takeArrived.barrier.resolve arrival).list.arrived.length = 1 := by
  by_cases enough : wait.barrier.remaining ≤ wait.barrier.list.arrived.length
  · rw [(takeArrived_of_enough enough).1] at goesOn
    cases goesOn
  · have few := Nat.lt_of_not_le enough
    rw [(takeArrived_of_few few).2]
    exact ⟨Nat.sub_add_cancel (Nat.le_of_lt few), few, rfl⟩

/-- All numbers of questions that are more than the signals still to be heard of make the same
program. -/
theorem run_eq_run {questions other : Nat} (positive : 0 < questions) (positiveOther : 0 < other)
    (often : wait.barrier.remaining < questions + wait.barrier.list.arrived.length)
    (oftenOther : wait.barrier.remaining < other + wait.barrier.list.arrived.length) :
    run deadline questions wait = run deadline other wait := by
  induction questions generalizing wait other with
  | zero => exact absurd positive (Nat.lt_irrefl 0)
  | succ questions inductionHypothesis =>
    obtain ⟨other, rfl⟩ := Nat.exists_eq_succ_of_ne_zero (Nat.ne_of_gt positiveOther)
    rw [run, run]
    cases goesOn : wait.takeArrived.isOver with
    | true => rfl
    | false =>
      refine congrArg (ask (.nextArrival wait.takeArrived.barrier.mark deadline) >>= ·)
        (funext fun answer => ?_)
      cases answer with
      | none => rfl
      | some arrival =>
        obtain ⟨remaining, few, arrived⟩ := takeArrived_resolve goesOn arrival
        exact inductionHypothesis (by omega) (by omega) (by dsimp only; omega) (by dsimp only; omega)

/-- A wait to its end. -/
def toEnd (deadline : Nat) (wait : Wait) : Pass BarrierOutcome :=
  run deadline (wait.barrier.remaining + 1) wait

/-- Taking what has arrived, with a way to go on with the next arrival. -/
def goOn (deadline : Nat) (next : Wait → Pass BarrierOutcome) (wait : Wait) : Pass BarrierOutcome := do
  let wait := wait.takeArrived
  if wait.isOver then return wait.finish false
  match ← ask (.nextArrival wait.barrier.mark deadline) with
  | none => return wait.finish true
  | some arrival => next { wait with barrier := wait.barrier.resolve arrival }

/-- To wait to the end is to take what has arrived, and to go on in the same way. -/
theorem toEnd_eq_goOn (deadline : Nat) : toEnd deadline = goOn deadline (toEnd deadline) := by
  funext wait
  rw [toEnd, run, goOn]
  cases goesOn : wait.takeArrived.isOver with
  | true => rfl
  | false =>
    refine congrArg (ask (.nextArrival wait.takeArrived.barrier.mark deadline) >>= ·)
      (funext fun answer => ?_)
    cases answer with
    | none => rfl
    | some arrival =>
      obtain ⟨remaining, few, arrived⟩ := takeArrived_resolve goesOn arrival
      exact run_eq_run (by omega) (Nat.succ_pos _) (by dsimp only; omega) (by dsimp only; omega)

end Wait

end PhasedLifecycle
