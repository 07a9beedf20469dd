/-
This file tells from a record what each component is doing. A component that was started runs, unless
the start failed; one that was stopped is idle; and one that was asked to stop in the background is
leaving, whether it still runs or not, until its signal is resolved.

Surroundings are well-behaved if components do as they are told and say so: asked whether it runs, a
component tells what it is doing, every stop succeeds, and every signal is completed before the deadline
of the wait for it. Starts may fail, and edges and phases are left open.
-/

import PhasedLifecycle.Proofs.PhaseBarrier

namespace PhasedLifecycle

/-! ### What a component is doing -/

/-- What a component is doing, as far as the calls to it and its signals tell. -/
inductive Activity where
  | idle
  | running
  /-- It was asked to stop in the background and did not report the end yet. -/
  | leaving (signal : Signal)
  deriving DecidableEq

/-- The call to a component in an exchange. -/
def Exchange.callTo? (component : Component) (exchange : Exchange) : Option Call :=
  exchange.call?.filter (·.component = component)

/-- The calls to a component in a record, in their order. -/
def callsTo (component : Component) (record : List Exchange) : List Call :=
  (callsIn record).filter (·.component = component)

theorem mem_callsTo {component : Component} {record : List Exchange} {call : Call} :
    call ∈ callsTo component record ↔ call ∈ callsIn record ∧ call.component = component := by
  rw [callsTo, List.mem_filter, decide_eq_true_iff]

theorem callsTo_append (component : Component) (first last : List Exchange) :
    callsTo component (first ++ last) = callsTo component first ++ callsTo component last := by
  rw [callsTo, callsIn_append, List.filter_append]
  rfl

theorem callsTo_singleton (component : Component) (exchange : Exchange) :
    callsTo component [exchange] = (exchange.callTo? component).toList := by
  rw [callsTo, callsIn, Exchange.callTo?, List.filterMap_cons]
  cases exchange.call? with
  | none => rfl
  | some call => by_cases its : call.component = component <;> simp [Option.filter, its]

/-- A call takes no signal back. -/
theorem Surroundings.unresolved_subset_give (surroundings : Surroundings) (request : Request) :
    surroundings.unresolved ⊆ (surroundings.give request).unresolved := by
  cases request with
  | stopAsync component signal => exact List.subset_append_left _ _
  | _ => exact List.Subset.refl _

/-- A signal that is handed out is open. -/
theorem Surroundings.mem_unresolved_give {surroundings : Surroundings} {exchange : Exchange}
    {component : Component} {signal : Signal} {reason : Option String}
    (calls : exchange.call? = some (.stopAsync component signal reason)) :
    signal ∈ (surroundings.give exchange.request).unresolved := by
  obtain ⟨request, answer, meanwhile, instant⟩ := exchange
  cases request with
  | stopAsync asked handed =>
    cases calls
    exact List.mem_append_right _ List.mem_cons_self
  | _ => cases calls

namespace Activity

/-- What a component is doing after a call to it. -/
def called : Call → Activity
  | .start _ none => .running
  | .start _ (some _) => .idle
  | .stop _ _ => .idle
  | .stopAsync _ signal _ => .leaving signal

/-- A component that is leaving has left when its signal is resolved. -/
def hear (activity : Activity) (resolution : Resolution) : Activity :=
  if activity = .leaving resolution.signal then .idle else activity

/-- What a component is doing after an exchange. -/
def after (component : Component) (activity : Activity) (exchange : Exchange) : Activity :=
  exchange.meanwhile.foldl hear ((exchange.callTo? component).elim activity called)

/-- What a component is doing after a record. -/
def afterAll (component : Component) (activity : Activity) (record : List Exchange) : Activity :=
  record.foldl (after component) activity

theorem afterAll_append (component : Component) (activity : Activity) (first last : List Exchange) :
    activity.afterAll component (first ++ last) =
      (activity.afterAll component first).afterAll component last :=
  List.foldl_append

/-- The component is idle or running. -/
def IsSettled (activity : Activity) : Prop :=
  ∀ signal, activity ≠ .leaving signal

/-! ### Components that are left alone -/

/-- A component that is not called goes on as before, unless it was leaving: then it may have left. -/
inductive LeftAlone : Activity → Activity → Prop
  | still (activity : Activity) : LeftAlone activity activity
  | left (signal : Signal) : LeftAlone (.leaving signal) .idle

theorem LeftAlone.trans {first middle last : Activity} (before : LeftAlone first middle)
    (after : LeftAlone middle last) : LeftAlone first last := by
  cases before with
  | still => exact after
  | left signal =>
    cases after
    exact .left signal

theorem LeftAlone.eq_of_isSettled {before after : Activity} (alone : LeftAlone before after)
    (settled : before.IsSettled) : after = before := by
  cases alone with
  | still => rfl
  | left signal => exact absurd rfl (settled signal)

theorem LeftAlone.leaving {before : Activity} {signal : Signal}
    (alone : LeftAlone before (.leaving signal)) : before = .leaving signal := by
  cases alone
  rfl

theorem LeftAlone.eq_idle {after : Activity} {signal : Signal}
    (alone : LeftAlone (.leaving signal) after) (gone : after ≠ .leaving signal) : after = .idle := by
  cases alone with
  | still => exact absurd rfl gone
  | left => rfl

theorem leftAlone_foldl_hear (activity : Activity) (resolutions : List Resolution) :
    LeftAlone activity (resolutions.foldl hear activity) := by
  induction resolutions generalizing activity with
  | nil => exact .still activity
  | cons resolution resolutions inductionHypothesis =>
    refine LeftAlone.trans ?_ (inductionHypothesis _)
    unfold hear
    split
    · rename_i its
      rw [its]
      exact .left _
    · exact .still activity

/-- After the last call to it, a component is left alone: the last exchange of a record either calls it
or leaves it alone. -/
theorem leftAlone_afterAll (component : Component) (activity : Activity) (record : List Exchange) :
    LeftAlone ((callsTo component record).getLast?.elim activity called)
      (activity.afterAll component record) := by
  induction record using List.reverseRecOn with
  | nil => exact .still activity
  | append_singleton record exchange inductionHypothesis =>
    rw [callsTo_append, callsTo_singleton, afterAll_append]
    show LeftAlone _ (exchange.meanwhile.foldl hear _)
    refine LeftAlone.trans ?_ (leftAlone_foldl_hear _ _)
    cases exchange.callTo? component with
    | none =>
      rw [Option.toList_none, List.append_nil]
      exact inductionHypothesis
    | some call =>
      rw [Option.toList_some, List.getLast?_concat]
      exact .still _

theorem afterAll_of_uncalled {component : Component} {activity : Activity} {record : List Exchange}
    (uncalled : callsTo component record = []) (settled : activity.IsSettled) :
    activity.afterAll component record = activity := by
  have alone := leftAlone_afterAll component activity record
  rw [uncalled] at alone
  exact alone.eq_of_isSettled settled

/-- A component is leaving after a call that handed a signal to it. -/
theorem eq_stopAsync_of_called {call : Call} {signal : Signal}
    (leaving : called call = .leaving signal) :
    ∃ component reason, call = .stopAsync component signal reason := by
  cases call with
  | start component reason => cases reason <;> cases leaving
  | stop component reason => cases leaving
  | stopAsync component handed reason =>
    cases leaving
    exact ⟨component, reason, rfl⟩

/-- The signal of a component that is leaving is open. -/
theorem mem_unresolved_foldl_hear {activity : Activity} {surroundings : Surroundings}
    {resolutions : List Resolution} {signal : Signal}
    (isOpen : ∀ signal, activity = .leaving signal → signal ∈ surroundings.unresolved)
    (leaving : resolutions.foldl hear activity = .leaving signal) :
    signal ∈ (resolutions.foldl Surroundings.resolve surroundings).unresolved := by
  induction resolutions generalizing activity surroundings with
  | nil => exact isOpen signal leaving
  | cons resolution resolutions inductionHypothesis =>
    refine inductionHypothesis (fun signal goesOn => ?_) leaving
    unfold hear at goesOn
    split at goesOn
    · cases goesOn
    · rename_i other
      have different : signal ≠ resolution.signal := fun same => other (same ▸ goesOn)
      exact (List.mem_erase_of_ne different).mpr (isOpen signal goesOn)

theorem mem_unresolved_after {component : Component} {activity : Activity}
    {surroundings : Surroundings} {exchange : Exchange} {signal : Signal}
    (isOpen : ∀ signal, activity = .leaving signal → signal ∈ surroundings.unresolved)
    (leaving : activity.after component exchange = .leaving signal) :
    signal ∈ (surroundings.after exchange).unresolved := by
  refine mem_unresolved_foldl_hear (fun signal given => ?_) leaving
  cases asked : exchange.callTo? component with
  | none =>
    rw [asked] at given
    exact Surroundings.unresolved_subset_give _ _ (isOpen signal given)
  | some call =>
    rw [asked] at given
    obtain ⟨other, reason, rfl⟩ := eq_stopAsync_of_called given
    exact Surroundings.mem_unresolved_give (Option.filter_eq_some_iff.mp asked).1

theorem mem_unresolved_afterAll {component : Component} {activity : Activity}
    {surroundings : Surroundings} {record : List Exchange} {signal : Signal}
    (isOpen : ∀ signal, activity = .leaving signal → signal ∈ surroundings.unresolved)
    (leaving : activity.afterAll component record = .leaving signal) :
    signal ∈ (surroundings.afterAll record).unresolved := by
  induction record generalizing activity surroundings with
  | nil => exact isOpen signal leaving
  | cons exchange record inductionHypothesis =>
    exact inductionHypothesis (fun _ goesOn => mem_unresolved_after isOpen goesOn) leaving

end Activity

/-- What each component is doing after a record. -/
def activitiesAfter (activity : Component → Activity) (record : List Exchange) : Component → Activity :=
  fun component => (activity component).afterAll component record

theorem activitiesAfter_append (activity : Component → Activity) (first last : List Exchange) :
    activitiesAfter activity (first ++ last) =
      activitiesAfter (activitiesAfter activity first) last :=
  funext fun component => (activity component).afterAll_append component first last

/-! ### Well-behaved surroundings -/

/-- Asked whether it runs, a component tells what it is doing, unless it is leaving; asked to stop, it
does as it is told. -/
def Exchange.IsFaithful (activity : Component → Activity) : Exchange → Prop
  | ⟨.isRunning component, ran, _, _⟩ =>
    (activity component = .idle → ran = false) ∧ (activity component = .running → ran = true)
  | ⟨.stop _, reason, _, _⟩ => reason = none
  | ⟨.stopAsync _ _, reason, _, _⟩ => reason = none
  | _ => True

/-- The call is no stop that failed. -/
def Call.IsObeyed : Call → Prop
  | .start _ _ => True
  | .stop _ reason => reason = none
  | .stopAsync _ _ reason => reason = none

/-- Components do as they are told and say so, and every signal that is resolved is completed. -/
def Faithful (activity : Component → Activity) : List Exchange → Prop
  | [] => True
  | exchange :: record =>
    exchange.IsFaithful activity ∧
      (∀ resolution ∈ exchange.meanwhile, resolution.ending = .completed) ∧
      Faithful (activitiesAfter activity [exchange]) record

/-- A component, if it is asked whether it starts by itself, answers as it always does. -/
def Exchange.KeepsAutos (auto : Component → Bool) : Exchange → Prop
  | ⟨.isAutoStartup component, answer, _, _⟩ => answer = auto component
  | _ => True

/-- When the deadline of a wait has passed, no signal of its barrier is open. -/
def Exchange.IsInTime (later : Surroundings) : Exchange → Prop
  | ⟨.nextArrival barrier _, none, _, _⟩ => later.openFor barrier = []
  | _ => True

/-- Every signal is resolved before the deadline of the wait for it. -/
def Surroundings.KeepsDeadlines (surroundings : Surroundings) : List Exchange → Prop
  | [] => True
  | exchange :: record =>
    exchange.IsInTime (surroundings.after exchange) ∧
      (surroundings.after exchange).KeepsDeadlines record

theorem faithful_append {activity : Component → Activity} {first last : List Exchange} :
    Faithful activity (first ++ last) ↔
      Faithful activity first ∧ Faithful (activitiesAfter activity first) last := by
  induction first generalizing activity with
  | nil => exact (and_iff_right trivial).symm
  | cons exchange first inductionHypothesis =>
    rw [List.cons_append, Faithful, Faithful, inductionHypothesis, ← activitiesAfter_append,
      List.singleton_append, and_assoc, and_assoc]

theorem Surroundings.keepsDeadlines_append {surroundings : Surroundings} {first last : List Exchange} :
    surroundings.KeepsDeadlines (first ++ last) ↔
      surroundings.KeepsDeadlines first ∧ (surroundings.afterAll first).KeepsDeadlines last := by
  induction first generalizing surroundings with
  | nil => exact (and_iff_right trivial).symm
  | cons exchange first inductionHypothesis =>
    rw [List.cons_append, KeepsDeadlines, KeepsDeadlines, inductionHypothesis, and_assoc]
    rfl

/-- A record in well-behaved surroundings, from a moment when each component is doing something. -/
structure WellBehaved (auto : Component → Bool) (surroundings : Surroundings)
    (activity : Component → Activity) (record : List Exchange) : Prop where
  follows : surroundings.Follows record
  faithful : Faithful activity record
  autos : ∀ exchange ∈ record, exchange.KeepsAutos auto
  inTime : surroundings.KeepsDeadlines record

section

variable {auto : Component → Bool} {surroundings : Surroundings} {activity : Component → Activity}
  {record first last : List Exchange}

theorem wellBehaved_append :
    WellBehaved auto surroundings activity (first ++ last) ↔
      WellBehaved auto surroundings activity first ∧
        WellBehaved auto (surroundings.afterAll first) (activitiesAfter activity first) last := by
  constructor
  · rintro ⟨follows, faithful, autos, inTime⟩
    obtain ⟨followsFirst, followsLast⟩ := Surroundings.follows_append.mp follows
    obtain ⟨faithfulFirst, faithfulLast⟩ := faithful_append.mp faithful
    obtain ⟨inTimeFirst, inTimeLast⟩ := Surroundings.keepsDeadlines_append.mp inTime
    exact ⟨⟨followsFirst, faithfulFirst, fun exchange there => autos exchange
        (List.mem_append_left _ there), inTimeFirst⟩, followsLast, faithfulLast,
      fun exchange there => autos exchange (List.mem_append_right _ there), inTimeLast⟩
  · rintro ⟨behavedFirst, behavedLast⟩
    exact ⟨Surroundings.follows_append.mpr ⟨behavedFirst.follows, behavedLast.follows⟩,
      faithful_append.mpr ⟨behavedFirst.faithful, behavedLast.faithful⟩,
      fun exchange there => (List.mem_append.mp there).elim (behavedFirst.autos exchange)
        (behavedLast.autos exchange),
      Surroundings.keepsDeadlines_append.mpr ⟨behavedFirst.inTime, behavedLast.inTime⟩⟩

/-- Whatever is resolved in a faithful record is completed. -/
theorem Faithful.completed (faithful : Faithful activity record) {exchange : Exchange}
    (there : exchange ∈ record) {resolution : Resolution} (resolved : resolution ∈ exchange.meanwhile) :
    resolution.ending = .completed := by
  obtain ⟨before, after, rfl⟩ := List.append_of_mem there
  exact (faithful_append.mp faithful).2.2.1 resolution resolved

/-- No stop in a faithful record fails. -/
theorem Faithful.obeyed (faithful : Faithful activity record) :
    ∀ call ∈ callsIn record, call.IsObeyed := by
  intro call called
  obtain ⟨exchange, there, calls⟩ := List.mem_filterMap.mp called
  obtain ⟨before, after, rfl⟩ := List.append_of_mem there
  have obeyed := (faithful_append.mp faithful).2.1
  obtain ⟨request, answer, meanwhile, instant⟩ := exchange
  cases request <;> cases calls <;> exact obeyed

/-- Where each component is idle or running, one that was not called yet runs if it ran at first, and
only then. -/
theorem Faithful.keepsState (faithful : Faithful activity record)
    (settled : ∀ component, (activity component).IsSettled) :
    KeepsState (fun component => decide (activity component = .running)) record := by
  rintro before component ran meanwhile instant after rfl uncalled
  have none : callsTo component before = [] :=
    List.filter_eq_nil_iff.mpr fun call called same =>
      uncalled (of_decide_eq_true same ▸ List.mem_map_of_mem called)
  obtain ⟨idle, running⟩ := (faithful_append.mp faithful).2.1
  rw [activitiesAfter, Activity.afterAll_of_uncalled none (settled component)] at idle running
  cases doing : activity component with
  | idle => exact (idle doing).trans (decide_eq_false (by rw [doing]; nofun)).symm
  | running => exact (running doing).trans (decide_eq_true doing).symm
  | leaving signal => exact absurd doing (settled component signal)

end

end PhasedLifecycle
