/-
This file describes surroundings in which components keep to habits. Edges and phases stay what they are.
Calls end at once, though some may fail. A signal is completed in the call that hands it out or, where it
takes its time, a while into the wait of its barrier, unless the deadline comes first. So they show what a
pass calls, what it does while signals are open, and what it reports of a phase that ran out of time.
-/

import Mathlib.Data.List.MinMax
import Mathlib.Order.Nat
import PhasedLifecycle.Proofs.Calls
import PhasedLifecycle.Proofs.Surroundings

namespace PhasedLifecycle

/-- What components keep to: the edges and phases they answer, the reasons with which their starts and stops
fail, if they do, and how long a wait lasts until a signal is completed. Without a delay, signals are
completed in the calls that hand them out. -/
structure Habits where
  dependencies : String → List String := fun _ => []
  dependents : String → List String := fun _ => []
  phase : Component → Int
  failure : Component → Option String := fun _ => none
  refusal : Component → Option String := fun _ => none
  delay : Option Nat := none

/-- The state of such surroundings: the running components, the time, the open signals in the order in which
they were given out, the resolutions that no barrier heard of yet, and those that are new with the latest
answer. -/
structure Habits.State where
  running : List Component
  clock : Nat := 0
  unresolved : List Signal := []
  mail : List Resolution := []
  fresh : List Resolution := []

namespace Habits.State

/-! ### Answers by habits -/

/-- Nothing is resolved. -/
def still (state : State) : State :=
  { state with fresh := [] }

/-- A component that does not fail to start runs. -/
def launch (habits : Habits) (component : Component) (state : State) : State :=
  if habits.failure component = none then
    { state with running := component :: state.running, fresh := [] }
  else state.still

/-- A component that does not refuse stops running. -/
def halt (habits : Habits) (component : Component) (state : State) : State :=
  if habits.refusal component = none then
    { state with running := state.running.filter (· ≠ component), fresh := [] }
  else state.still

/-- A signal is handed out. -/
def hand (signal : Signal) (state : State) : State :=
  { state with unresolved := state.unresolved ++ [signal] }

/-- A signal is completed. -/
def complete (signal : Signal) (instant : Nat) (state : State) : State where
  running := state.running
  clock := instant
  unresolved := state.unresolved.erase signal
  mail := state.mail ++ [⟨signal, .completed, instant⟩]
  fresh := [⟨signal, .completed, instant⟩]

/-- The deadline of a wait passes. -/
def expire (deadline : Nat) (state : State) : State :=
  { state with clock := max state.clock deadline, fresh := [] }

/-- A barrier hears the first of its news. -/
def hear (barrier : Nat) (state : State) : Option Arrival × State :=
  match state.mail.find? (·.signal.barrier = barrier) with
  | none => (none, state)
  | some resolution =>
    (some resolution.arrival, { state with mail := state.mail.eraseP (·.signal.barrier = barrier) })

/-- A barrier waits. If it has no news, the first of its open signals is completed after the delay; or the
deadline passes. -/
def await (habits : Habits) (barrier deadline : Nat) (state : State) : State :=
  if state.mail.any (·.signal.barrier = barrier) then state.still
  else
    match habits.delay, state.unresolved.find? (·.barrier = barrier) with
    | some delay, some signal =>
      if state.clock + delay ≤ deadline then state.complete signal (state.clock + delay)
      else state.expire deadline
    | _, _ => state.expire deadline

/-- What is answered by habits. -/
def answer (habits : Habits) : (request : Request) → State → request.Answer × State
  | .dependencies name, state => (habits.dependencies name, state.still)
  | .dependents name, state => (habits.dependents name, state.still)
  | .isRunning component, state => (decide (component ∈ state.running), state.still)
  | .isAutoStartup _, state => (true, state.still)
  | .phase component, state => (habits.phase component, state.still)
  | .start component, state => (habits.failure component, state.launch habits component)
  | .stop component, state => (habits.refusal component, state.halt habits component)
  | .stopAsync component signal, state =>
    let handed := (state.halt habits component).hand signal
    (habits.refusal component,
      if habits.delay = none then handed.complete signal state.clock else handed)
  | .barrierMark, state =>
    (((state.unresolved ++ state.mail.map (·.signal)).map (·.barrier)).foldr max 0 + 1, state.still)
  | .arrivals barrier, state =>
    ((state.mail.filter (·.signal.barrier = barrier)).map Resolution.arrival,
      { state with mail := state.mail.filter (·.signal.barrier ≠ barrier), fresh := [] })
  | .now, state => (state.clock, state.still)
  | .nextArrival barrier deadline, state => (state.await habits barrier deadline).hear barrier
  | .note _, state => ((), state.still)

end Habits.State

namespace Habits

variable {Value : Type} (habits : Habits) (running : List Component) (pass : Pass Value)

/-- The record of a pass by habits, where at first some components run. -/
def record : List Exchange :=
  pass.recordOf (State.answer habits) State.fresh State.clock { running }

/-- The value of a pass by habits. -/
def value : Value :=
  (pass.run (State.answer habits) { running }).1

theorem yields_record : pass.Yields (habits.record running pass) (habits.value running pass) :=
  Pass.yields_recordOf _ _ _ pass _

theorem keepsDependencies_record :
    ∀ exchange ∈ habits.record running pass, exchange.KeepsDependencies habits.dependencies :=
  Pass.forall_recordOf (fun request state => by cases request <;> first | rfl | exact trivial) pass _

theorem keepsDependents_record :
    ∀ exchange ∈ habits.record running pass, exchange.KeepsDependents habits.dependents :=
  Pass.forall_recordOf (fun request state => by cases request <;> first | rfl | exact trivial) pass _

theorem keepsPhases_record :
    ∀ exchange ∈ habits.record running pass, exchange.KeepsPhases habits.phase :=
  Pass.forall_recordOf (fun request state => by cases request <;> first | rfl | exact trivial) pass _

end Habits

namespace Habits.State

variable {habits : Habits} {state : State}

/-! ### Who runs -/

theorem running_hear (barrier : Nat) (state : State) : (state.hear barrier).2.running = state.running := by
  unfold hear
  split <;> rfl

theorem running_await (habits : Habits) (barrier deadline : Nat) (state : State) :
    (state.await habits barrier deadline).running = state.running := by
  unfold await
  split
  · rfl
  · split
    · split <;> rfl
    · rfl

theorem mem_running_launch_iff {component other : Component} (different : component ≠ other) :
    component ∈ (state.launch habits other).running ↔ component ∈ state.running := by
  unfold launch
  split
  · simp [different]
  · exact Iff.rfl

theorem mem_running_halt_iff {component other : Component} (different : component ≠ other) :
    component ∈ (state.halt habits other).running ↔ component ∈ state.running := by
  unfold halt
  split
  · simp [different]
  · exact Iff.rfl

/-- A component that was not called is what it was. -/
theorem mem_running_answer_iff {request : Request} {component : Component} {meanwhile : List Resolution}
    {instant : Nat}
    (absent : component ∉
      (callsIn [⟨request, (answer habits request state).1, meanwhile, instant⟩]).map Call.component) :
    component ∈ (answer habits request state).2.running ↔ component ∈ state.running := by
  have different : ∀ other, (callsIn [⟨request, (answer habits request state).1, meanwhile,
      instant⟩]).map Call.component = [other] → component ≠ other := by
    rintro other only rfl
    exact absent (only ▸ List.mem_cons_self)
  cases request with
  | start other => exact mem_running_launch_iff (different other rfl)
  | stop other => exact mem_running_halt_iff (different other rfl)
  | stopAsync other signal =>
    rw [answer]
    dsimp only
    split <;> exact mem_running_halt_iff (different other rfl)
  | nextArrival barrier deadline =>
    rw [answer, running_hear, running_await]
  | _ => exact Iff.rfl

theorem keepsState_recordOf {Value : Type} (habits : Habits) (pass : Pass Value) (state : State) :
    KeepsState (fun component => decide (component ∈ state.running))
      (pass.recordOf (answer habits) fresh clock state) := by
  intro before component ran meanwhile instant after place absent
  induction pass generalizing state before with
  | done value => cases before <;> cases place
  | asking request next inductionHypothesis =>
    cases before with
    | nil =>
      obtain ⟨first, -⟩ := List.cons.inj place
      cases request with
      | isRunning other =>
        cases first
        rfl
      | _ => cases first
    | cons exchange before =>
      obtain ⟨rfl, rest⟩ := List.cons.inj place
      rw [callsIn, ← List.singleton_append, List.filterMap_append, List.map_append, List.mem_append,
        not_or] at absent
      have later := inductionHypothesis _ _ before rest absent.2
      rw [later]
      exact decide_eq_decide.mpr (mem_running_answer_iff absent.1)

/-! ### What is possible -/

/-- The time, the open signals and the news of a state, as surroundings. -/
def surroundings (state : State) : Surroundings :=
  { clock := state.clock, unresolved := state.unresolved, mail := state.mail }

/-- The news of a state is of the past. -/
def IsPunctual (state : State) : Prop :=
  ∀ resolution ∈ state.mail, resolution.instant ≤ state.clock

/-- An answer of a state is possible, and leads to a state. -/
def Steps (state : State) (request : Request) (answered : request.Answer × State) : Prop :=
  state.surroundings.Follows [⟨request, answered.1, answered.2.fresh, answered.2.clock⟩] ∧
    state.surroundings.after ⟨request, answered.1, answered.2.fresh, answered.2.clock⟩ =
      answered.2.surroundings ∧
    answered.2.IsPunctual

theorem hear_of_nil {barrier : Nat} (news : state.mail.filter (·.signal.barrier = barrier) = []) :
    state.hear barrier = (none, state) := by
  rw [hear, ← List.head?_filter, news]
  rfl

theorem hear_of_cons {barrier : Nat} {resolution : Resolution} {later : List Resolution}
    (news : state.mail.filter (·.signal.barrier = barrier) = resolution :: later) :
    state.hear barrier = (some resolution.arrival,
      { state with mail := state.mail.eraseP (·.signal.barrier = barrier) }) := by
  rw [hear, ← List.head?_filter, news]
  rfl

section

variable (punctual : state.IsPunctual)

include punctual

/-- An answer in which nothing is resolved and no time passes is possible if it is what the
surroundings allow. -/
theorem steps_of_still {after : State} {request : Request} {reply : request.Answer}
    (quiet : after.fresh = []) (given : state.surroundings.give request = after.surroundings)
    (allowed : state.surroundings.Allows after.surroundings ⟨request, reply, [], after.clock⟩)
    (unheard : after.surroundings.hear ⟨request, reply, [], after.clock⟩ = after.mail) :
    state.Steps request (reply, after) := by
  have clock : after.clock = state.clock := by
    have same := congrArg Surroundings.clock given
    rw [Surroundings.clock_give] at same
    exact same.symm
  have mail : after.mail = state.mail := by
    have same := congrArg Surroundings.mail given
    cases request <;> exact same.symm
  have moment : state.surroundings.meanwhile ⟨request, reply, [], after.clock⟩ = after.surroundings :=
    given
  refine ⟨?_, ?_, ?_⟩
  · rw [quiet]
    refine ⟨trivial, ?_, ?_, trivial⟩
    · rw [moment]
      exact Nat.le_refl _
    · rw [moment]
      exact allowed
  · rw [quiet, Surroundings.after, moment, unheard]
    rfl
  · rw [IsPunctual, mail, clock]
    exact punctual

/-- A signal can be completed in the call that hands it out. -/
theorem steps_of_complete {halted : State} {component : Component} {signal : Signal}
    {reply : Option String} (same : halted.surroundings = state.surroundings) :
    state.Steps (.stopAsync component signal)
      (reply, (halted.hand signal).complete signal state.clock) := by
  obtain ⟨-, unresolved, mail⟩ := Surroundings.mk.inj same
  refine ⟨⟨⟨by simp [Surroundings.give], Nat.le_refl _, trivial⟩, Nat.le_refl _, trivial, trivial⟩, ?_, ?_⟩
  · simp [Surroundings.after, Surroundings.meanwhile, Surroundings.give, Surroundings.resolve,
      Surroundings.hear, surroundings, complete, hand, unresolved, mail]
  · intro resolution there
    have there : resolution ∈ state.mail ++ [⟨signal, .completed, state.clock⟩] := mail ▸ there
    rcases List.mem_append.mp there with old | new
    · exact punctual resolution old
    · rw [List.mem_singleton.mp new]
      exact Nat.le_refl _

/-- A barrier that has news can hear the first of it. -/
theorem steps_of_news {barrier deadline : Nat} {resolution : Resolution} {later : List Resolution}
    (news : state.mail.filter (·.signal.barrier = barrier) = resolution :: later) :
    state.Steps (.nextArrival barrier deadline) (state.still.hear barrier) := by
  have old : resolution.instant ≤ state.clock := by
    have there : resolution ∈ state.mail.filter (·.signal.barrier = barrier) := by
      rw [news]
      exact List.mem_cons_self
    exact punctual resolution (List.mem_filter.mp there).1
  have heard : state.still.hear barrier = _ := hear_of_cons news
  rw [heard]
  exact ⟨⟨trivial, Nat.le_refl _, ⟨resolution, later, news, rfl, (Nat.max_eq_left old).symm,
    Nat.le_trans old (Nat.le_max_left _ _)⟩, trivial⟩, rfl, fun other there =>
      punctual other (List.mem_of_mem_eraseP there)⟩

/-- A barrier without news can wait until a signal is completed. -/
theorem steps_of_completion {barrier deadline instant : Nat} {signal : Signal}
    (news : state.mail.filter (·.signal.barrier = barrier) = [])
    (found : state.unresolved.find? (·.barrier = barrier) = some signal)
    (later : state.clock ≤ instant) (inTime : instant ≤ deadline) :
    state.Steps (.nextArrival barrier deadline) ((state.complete signal instant).hear barrier) := by
  have its : signal.barrier = barrier := by simpa using List.find?_some found
  have first : (state.complete signal instant).mail.filter (·.signal.barrier = barrier) =
      [⟨signal, .completed, instant⟩] := by
    unfold complete
    rw [List.filter_append, news]
    simp [its]
  have heard : (state.complete signal instant).hear barrier = _ := hear_of_cons first
  rw [heard]
  refine ⟨⟨⟨List.mem_of_find?_eq_some found, later, trivial⟩, Nat.le_refl _,
    ⟨_, [], first, rfl, (Nat.max_eq_right later).symm, Nat.le_trans inTime (Nat.le_max_right _ _)⟩,
    trivial⟩, rfl, fun resolution there => ?_⟩
  rcases List.mem_append.mp (List.mem_of_mem_eraseP there) with old | new
  · exact Nat.le_trans (punctual resolution old) later
  · rw [List.mem_singleton.mp new]
    exact Nat.le_refl _

/-- A barrier without news can wait until its deadline passes. -/
theorem steps_of_expire {barrier deadline : Nat}
    (news : state.mail.filter (·.signal.barrier = barrier) = []) :
    state.Steps (.nextArrival barrier deadline) ((state.expire deadline).hear barrier) := by
  have nothing : (state.expire deadline).hear barrier = _ := hear_of_nil news
  rw [nothing]
  exact ⟨⟨trivial, Nat.le_max_left _ _, ⟨news, rfl⟩, trivial⟩, rfl, fun resolution there =>
    Nat.le_trans (punctual resolution there) (Nat.le_max_left _ _)⟩

theorem steps_await (habits : Habits) (barrier deadline : Nat) :
    state.Steps (.nextArrival barrier deadline) ((state.await habits barrier deadline).hear barrier) := by
  unfold await
  cases news : state.mail.filter (·.signal.barrier = barrier) with
  | cons resolution later =>
    have there : resolution ∈ state.mail.filter (·.signal.barrier = barrier) := by
      rw [news]
      exact List.mem_cons_self
    obtain ⟨inMail, its⟩ := List.mem_filter.mp there
    rw [if_pos (List.any_eq_true.mpr ⟨resolution, inMail, its⟩)]
    exact steps_of_news punctual news
  | nil =>
    have none : ¬ state.mail.any (·.signal.barrier = barrier) = true := by
      intro some
      obtain ⟨resolution, there, its⟩ := List.any_eq_true.mp some
      exact List.filter_eq_nil_iff.mp news resolution there its
    rw [if_neg none]
    split
    · rename_i delay signal late found
      split
      · rename_i inTime
        exact steps_of_completion punctual news found (Nat.le_add_right _ _) inTime
      · exact steps_of_expire punctual news
    · exact steps_of_expire punctual news

/-- A single answer is possible, and leads to a state. -/
theorem steps_answer (habits : Habits) (request : Request) :
    state.Steps request (answer habits request state) := by
  have halted : ∀ component, (state.halt habits component).surroundings = state.surroundings ∧
      (state.halt habits component).fresh = [] := by
    intro component
    unfold halt
    split <;> exact ⟨rfl, rfl⟩
  have launched : ∀ component, (state.launch habits component).surroundings = state.surroundings ∧
      (state.launch habits component).fresh = [] := by
    intro component
    unfold launch
    split <;> exact ⟨rfl, rfl⟩
  cases request with
  | start component =>
    exact steps_of_still punctual (launched component).2 (launched component).1.symm trivial rfl
  | stop component =>
    exact steps_of_still punctual (halted component).2 (halted component).1.symm trivial rfl
  | stopAsync component signal =>
    rw [answer]
    split
    · exact steps_of_complete punctual (halted component).1
    · refine steps_of_still punctual (halted component).2 ?_ trivial rfl
      obtain ⟨clock, unresolved, mail⟩ := Surroundings.mk.inj (halted component).1
      simp [Surroundings.give, surroundings, hand, clock, unresolved, mail]
  | barrierMark =>
    have unused : ∀ signal ∈ state.unresolved ++ state.mail.map (·.signal), signal.barrier ≠
        ((state.unresolved ++ state.mail.map (·.signal)).map (·.barrier)).foldr max 0 + 1 := by
      intro signal there same
      have bound := List.le_max_of_le (List.mem_map_of_mem (f := fun given => given.barrier) there)
        (Nat.le_refl _)
      rw [same] at bound
      exact Nat.not_succ_le_self _ bound
    refine steps_of_still punctual rfl rfl ⟨?_, ?_⟩ rfl
    · refine List.map_eq_nil_iff.mpr (List.filter_eq_nil_iff.mpr fun signal there its => ?_)
      exact unused signal (List.mem_append_left _ there) (of_decide_eq_true its)
    · refine List.filter_eq_nil_iff.mpr fun resolution there its => ?_
      exact unused resolution.signal (List.mem_append_right _ (List.mem_map_of_mem there))
        (of_decide_eq_true its)
  | arrivals barrier =>
    exact ⟨⟨trivial, Nat.le_refl _, rfl, trivial⟩, rfl, fun resolution there =>
      punctual resolution (List.mem_filter.mp there).1⟩
  | now => exact steps_of_still punctual rfl rfl ⟨rfl, rfl, rfl⟩ rfl
  | nextArrival barrier deadline => exact steps_await punctual habits barrier deadline
  | _ => exact steps_of_still punctual rfl rfl trivial rfl

theorem follows_recordOf {Value : Type} (habits : Habits) (pass : Pass Value) :
    state.surroundings.Follows (pass.recordOf (answer habits) fresh clock state) := by
  induction pass generalizing state with
  | done value => exact trivial
  | asking request next inductionHypothesis =>
    obtain ⟨possible, after, punctualAfter⟩ := steps_answer punctual habits request
    refine ⟨possible.1, possible.2.1, possible.2.2.1, ?_⟩
    have rest := inductionHypothesis (answer habits request state).1 punctualAfter
    rw [← after] at rest
    exact rest

end

end Habits.State

namespace Habits

variable {Value : Type} (habits : Habits) (running : List Component) (pass : Pass Value)

/-- A component runs if it did at first, as long as it is not called. -/
theorem keepsState_record :
    KeepsState (fun component => decide (component ∈ running)) (habits.record running pass) :=
  State.keepsState_recordOf habits pass { running }

/-- What is answered by habits is possible. -/
theorem follows_record : ({} : Surroundings).Follows (habits.record running pass) := by
  have punctual : State.IsPunctual { running } := fun _ there => absurd there List.not_mem_nil
  exact State.follows_recordOf punctual habits pass

end Habits

end PhasedLifecycle
