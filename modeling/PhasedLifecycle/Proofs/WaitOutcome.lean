/-
This file works out what a wait for a barrier comes to, from what was done with the barrier before and
from when its signals are resolved. Three things about a barrier go their own ways: the count, which only
the owner changes before the wait and which may be too low or too high; the queue of arrivals, one for
each resolved signal, in their order; and the names listed as open, where a name stands once however
often it is given out. They meet in the wait: it takes arrivals off the queue as they come, until as many
are taken as the count said at its beginning, or until the deadline.

The deeds before the wait and the resolutions to come are any that are possible: signals are resolved
once, and not before they are given out. For each such scene there is a run, and what it ends with is
fixed by the scene.
-/

import Mathlib.Data.List.Nodup
import PhasedLifecycle.Proofs.Waiting

namespace PhasedLifecycle

open Pass

/-! ### Deeds before the wait -/

/-- What is done with a barrier before it is waited for. -/
inductive Deed where
  | countDown
  | extend
  | issue (name : String)
  | resolve (arrival : Arrival)
  deriving DecidableEq

namespace Deed

/-- What becomes of the barrier. -/
def act (barrier : Barrier) : Deed → Barrier
  | .countDown => barrier.countDown
  | .extend => barrier.extend
  | .issue name => barrier.issue name
  | .resolve arrival => barrier.resolve arrival

/-- What becomes of a count that stops at zero. Signals have no say in it. -/
def count (count : Nat) : Deed → Nat
  | .countDown => count - 1
  | .extend => count + 1
  | .issue _ | .resolve _ => count

/-- Whether one signal more is awaited. -/
def isExtend : Deed → Bool
  | .extend => true
  | _ => false

/-- The name under which a signal is given out. -/
def issued? : Deed → Option String
  | .issue name => some name
  | _ => none

/-- The news of a resolved signal. -/
def arrival? : Deed → Option Arrival
  | .resolve arrival => some arrival
  | _ => none

/-- The names of the open signals, each as often as it is open. -/
def opened (names : List String) : Deed → List String
  | .issue name => names ++ [name]
  | .resolve arrival => names.erase arrival.name
  | .countDown | .extend => names

/-- Whether a name is listed as open: a signal of the name was given out, and none was resolved since. -/
def lists (name : String) (listed : Bool) : Deed → Bool
  | .issue other => listed || decide (name = other)
  | .resolve arrival => listed && decide (name ≠ arrival.name)
  | .countDown | .extend => listed

/-- Each resolution is of a signal that is open. -/
def Possible : List String → List Deed → Prop
  | _, [] => True
  | names, deed :: deeds =>
    (∀ arrival ∈ deed.arrival?, arrival.name ∈ names) ∧ Possible (deed.opened names) deeds

end Deed

section

variable {barrier : Barrier} {deeds : List Deed} {names : List String}

theorem mark_foldl_act : (deeds.foldl Deed.act barrier).mark = barrier.mark := by
  induction deeds generalizing barrier with
  | nil => rfl
  | cons deed deeds inductionHypothesis =>
    rw [List.foldl_cons, inductionHypothesis]
    cases deed <;> rfl

/-- As long as the count fits into a word, it is the one that stops at zero. -/
theorem remaining_foldl_act
    (small : barrier.remaining + deeds.countP Deed.isExtend < 0x10000000000000000) :
    (deeds.foldl Deed.act barrier).remaining = deeds.foldl Deed.count barrier.remaining := by
  induction deeds generalizing barrier with
  | nil => rfl
  | cons deed deeds inductionHypothesis =>
    rw [List.countP_cons] at small
    rw [List.foldl_cons, List.foldl_cons]
    cases deed with
    | countDown =>
      exact inductionHypothesis (by dsimp only [Deed.act, Barrier.countDown]; omega)
    | extend =>
      simp only [Deed.isExtend, if_true] at small
      have fits : (barrier.remaining + 1) % 0x10000000000000000 = barrier.remaining + 1 :=
        Nat.mod_eq_of_lt (by omega)
      rw [inductionHypothesis (by dsimp only [Deed.act, Barrier.extend]; omega)]
      exact congrArg (deeds.foldl Deed.count) fits
    | issue name => exact inductionHypothesis (by dsimp only [Deed.act, Barrier.issue]; omega)
    | resolve arrival => exact inductionHypothesis (by dsimp only [Deed.act, Barrier.resolve]; omega)

/-- The queue holds one arrival for each resolved signal, in order. -/
theorem arrived_foldl_act : (deeds.foldl Deed.act barrier).list.arrived =
    barrier.list.arrived ++ deeds.filterMap Deed.arrival? := by
  induction deeds generalizing barrier with
  | nil => exact (List.append_nil _).symm
  | cons deed deeds inductionHypothesis =>
    rw [List.foldl_cons, inductionHypothesis, List.filterMap_cons]
    cases deed with
    | countDown => rfl
    | extend => rfl
    | issue name => exact congrArg (· ++ _) (WaitingList.arrived_foldl_enter barrier.list [name])
    | resolve arrival => exact List.append_assoc _ _ _

theorem WaitingList.mem_unresolved_enter {list : WaitingList} {name other : String} :
    name ∈ (list.enter other).unresolved ↔ name ∈ list.unresolved ∨ name = other := by
  unfold enter
  split
  · rename_i there
    exact ⟨Or.inl, fun either => either.elim id fun same => same ▸ there⟩
  · rw [List.mem_append, List.mem_singleton]

theorem WaitingList.nodup_unresolved_enter {list : WaitingList} (once : list.unresolved.Nodup)
    (name : String) : (list.enter name).unresolved.Nodup := by
  unfold enter
  split
  · exact once
  · rename_i absent
    exact List.nodup_append.mpr ⟨once, List.nodup_singleton name, fun other there last same equal =>
      absent (List.mem_singleton.mp same ▸ equal ▸ there)⟩

/-- Whether a name stands on the list after a deed depends on whether it stood there before. -/
theorem Deed.mem_unresolved_act (deed : Deed) (name : String) :
    decide (name ∈ (deed.act barrier).list.unresolved) =
      deed.lists name (decide (name ∈ barrier.list.unresolved)) := by
  cases deed with
  | countDown => rfl
  | extend => rfl
  | issue other =>
    rw [lists, ← Bool.decide_or, decide_eq_decide]
    exact WaitingList.mem_unresolved_enter
  | resolve arrival =>
    rw [lists, ← Bool.decide_and, decide_eq_decide]
    show name ∈ barrier.list.unresolved.filter (· ≠ arrival.name) ↔ _
    rw [List.mem_filter, decide_eq_true_iff]

/-- A name stands on the list if a signal of the name was given out and none was resolved since. -/
theorem mem_unresolved_foldl_act (name : String) :
    name ∈ (deeds.foldl Deed.act barrier).list.unresolved ↔
      deeds.foldl (Deed.lists name) (decide (name ∈ barrier.list.unresolved)) = true := by
  induction deeds generalizing barrier with
  | nil => exact decide_eq_true_iff.symm
  | cons deed deeds inductionHypothesis =>
    rw [List.foldl_cons, List.foldl_cons, inductionHypothesis, deed.mem_unresolved_act]

theorem nodup_unresolved_foldl_act (once : barrier.list.unresolved.Nodup) :
    (deeds.foldl Deed.act barrier).list.unresolved.Nodup := by
  induction deeds generalizing barrier with
  | nil => exact once
  | cons deed deeds inductionHypothesis =>
    refine inductionHypothesis ?_
    cases deed with
    | countDown => exact once
    | extend => exact once
    | issue name => exact WaitingList.nodup_unresolved_enter once name
    | resolve arrival => exact once.filter _

theorem list_foldl_resolve (arrivals : List Arrival) :
    ((arrivals.map Deed.resolve).foldl Deed.act barrier).list =
      arrivals.foldl WaitingList.resolve barrier.list := by
  induction arrivals generalizing barrier with
  | nil => rfl
  | cons arrival arrivals inductionHypothesis => exact inductionHypothesis

/-- Every signal is resolved once or still open. -/
theorem Deed.Possible.perm (possible : Deed.Possible names deeds) :
    (names ++ deeds.filterMap Deed.issued?).Perm
      ((deeds.filterMap Deed.arrival?).map (·.name) ++ deeds.foldl Deed.opened names) := by
  induction deeds generalizing names with
  | nil => exact List.Perm.of_eq (List.append_nil _)
  | cons deed deeds inductionHypothesis =>
    obtain ⟨isOpen, later⟩ := possible
    have rest := inductionHypothesis later
    rw [List.foldl_cons, List.filterMap_cons, List.filterMap_cons]
    cases deed with
    | countDown => exact rest
    | extend => exact rest
    | issue name =>
      refine List.Perm.trans (List.Perm.of_eq ?_) rest
      exact List.append_cons _ _ _
    | resolve arrival =>
      refine ((List.perm_cons_erase (isOpen arrival rfl)).append_right _).trans ?_
      exact rest.cons arrival.name

end

/-- Names that are listed once are in strict order when they are sorted. -/
theorem pairwise_sortedNames {names : List String} (once : names.Nodup) :
    (sortedNames names).Pairwise (· < ·) := by
  have ascending : (sortedNames names).Pairwise fun first second =>
      decide (first ≤ second) = true := by
    refine List.pairwise_mergeSort (fun first second third before after => ?_) (fun first second => ?_)
      names
    · exact decide_eq_true (String.le_trans (of_decide_eq_true before) (of_decide_eq_true after))
    · rw [← Bool.decide_or]
      exact decide_eq_true (String.le_total first second)
  have apart : (sortedNames names).Nodup := (List.mergeSort_perm _ _).nodup_iff.mpr once
  refine ascending.imp₂ (fun first second before differ => ?_) apart
  exact String.not_le.mp fun after => differ (String.le_antisymm (of_decide_eq_true before) after)

/-! ### Scenes -/

/-- A barrier from its making on: what is done with it before the wait, how long the wait may take, what
is around it when the wait begins, and the resolutions of its signals that are to come, in their order.
They are of signals that are open, at different instants, and none is at the deadline. -/
structure Scene where
  mark : Nat
  initial : Nat
  deeds : List Deed
  timeout : Nat
  start : Surroundings
  coming : List Resolution
  possible : Deed.Possible [] deeds
  small : initial + deeds.countP Deed.isExtend < 0x10000000000000000
  unheard : start.mailFor mark = []
  unresolved : (start.openFor mark).Perm (deeds.foldl Deed.opened [])
  undergoes : start.Undergoes coming
  own : ∀ resolution ∈ coming, resolution.signal.barrier = mark
  apart : coming.Pairwise fun first second => first.instant < second.instant
  missed : ∀ resolution ∈ coming, resolution.instant ≠ start.clock + timeout

namespace Scene

variable (scene : Scene)

/-- The barrier when the wait begins. -/
def barrier : Barrier :=
  scene.deeds.foldl Deed.act { mark := scene.mark, remaining := scene.initial }

/-- How many signals are awaited when the wait begins. -/
def awaited : Nat :=
  scene.deeds.foldl Deed.count scene.initial

/-- The instant at which the wait ends at last. -/
def deadline : Nat :=
  scene.start.clock + scene.timeout

/-- What has arrived when the wait begins. -/
def early : List Arrival :=
  scene.deeds.filterMap Deed.arrival?

/-- All that ever arrives, in order. -/
def events : List Arrival :=
  scene.early ++ scene.coming.map Resolution.arrival

/-- What arrives before the deadline. -/
def timely : List Arrival :=
  scene.early ++ (scene.coming.filter (·.instant < scene.deadline)).map Resolution.arrival

/-- When a wait with a record returns. -/
def returned (record : List Exchange) : Nat :=
  (scene.start.afterAll record).clock

/-- Whether a name is listed as open after the deeds and after some resolutions. -/
def lists (resolutions : List Resolution) (name : String) : Bool :=
  (scene.deeds ++ resolutions.map fun resolution => Deed.resolve resolution.arrival).foldl
    (Deed.lists name) false

/-- A run of the wait in which signals are resolved as they are to be. -/
structure Unfolds (record : List Exchange) (outcome : BarrierOutcome) : Prop where
  yields : (scene.barrier.await scene.timeout).Yields record outcome
  follows : scene.start.Follows record
  keeps : ∃ later, scene.coming = resolvedIn scene.mark record ++ later ∧
    ∀ resolution ∈ later, scene.returned record ≤ resolution.instant

/-- What a wait is left with that took some arrivals and during which some signals were resolved. -/
structure Closes (outcome : BarrierOutcome) (taken : List Arrival) (meanwhile : List Resolution) :
    Prop where
  completed : outcome.completed = endedIn .completed taken
  abandoned : outcome.abandoned = endedIn .abandoned taken
  sorted : outcome.pending.Pairwise (· < ·)
  pending : ∀ name, name ∈ outcome.pending ↔ scene.lists meanwhile name = true

end Scene

/-! ### Resolutions as they are to come -/

theorem Exchange.resolved_of_own {barrier : Nat} {exchange : Exchange}
    (own : ∀ resolution ∈ exchange.meanwhile, resolution.signal.barrier = barrier) :
    exchange.resolved barrier = exchange.meanwhile :=
  List.filter_eq_self.mpr fun resolution there => decide_eq_true (own resolution there)

namespace Surroundings

variable {surroundings : Surroundings} {resolutions : List Resolution}

/-- What resolutions are possible depends on the time and on the open signals. -/
theorem Undergoes.congr {other : Surroundings} (possible : surroundings.Undergoes resolutions)
    (clock : other.clock = surroundings.clock)
    (unresolved : other.unresolved = surroundings.unresolved) : other.Undergoes resolutions := by
  induction resolutions generalizing surroundings other with
  | nil => exact trivial
  | cons resolution resolutions inductionHypothesis =>
    obtain ⟨isOpen, later, rest⟩ := possible
    refine ⟨unresolved ▸ isOpen, clock ▸ later, inductionHypothesis rest rfl ?_⟩
    exact congrArg (·.erase resolution.signal) unresolved

/-- A question for the next arrival is answered as soon as a signal is resolved that is open. -/
theorem follows_arrival {mark deadline : Nat} {resolution : Resolution}
    (isOpen : resolution.signal ∈ surroundings.unresolved) (own : resolution.signal.barrier = mark)
    (later : surroundings.clock ≤ resolution.instant) (soon : resolution.instant ≤ deadline)
    (unheard : surroundings.mailFor mark = []) :
    surroundings.Follows [⟨.nextArrival mark deadline, some resolution.arrival, [resolution],
        resolution.instant⟩] ∧
      (surroundings.after ⟨.nextArrival mark deadline, some resolution.arrival, [resolution],
        resolution.instant⟩).mailFor mark = [] := by
  have news : (surroundings.meanwhile ⟨.nextArrival mark deadline, some resolution.arrival,
      [resolution], resolution.instant⟩).mailFor mark = [resolution] := by
    rw [mailFor_meanwhile, unheard]
    exact Exchange.resolved_of_own fun other there => List.mem_singleton.mp there ▸ own
  have allowed : surroundings.Allows (surroundings.meanwhile ⟨.nextArrival mark deadline,
      some resolution.arrival, [resolution], resolution.instant⟩) ⟨.nextArrival mark deadline,
        some resolution.arrival, [resolution], resolution.instant⟩ :=
    ⟨resolution, [], news, rfl, (Nat.max_eq_right later).symm,
      Nat.le_trans soon (Nat.le_max_right _ _)⟩
  refine ⟨⟨⟨isOpen, later, trivial⟩, Nat.le_refl _, allowed, trivial⟩, ?_⟩
  have heard := heard_append_mailFor_after mark allowed
  rw [news, Exchange.heard, if_pos rfl] at heard
  exact List.map_eq_nil_iff.mp (List.cons.inj heard).2

end Surroundings

/-- However the signals of a barrier are resolved, a wait has a run in which they are resolved so, each
of them heard of as it happens. -/
theorem Wait.exists_run {mark deadline questions : Nat} {wait : Wait} {surroundings : Surroundings}
    {coming : List Resolution} (marked : wait.barrier.mark = mark)
    (unheard : surroundings.mailFor mark = []) (possible : surroundings.Undergoes coming)
    (own : ∀ resolution ∈ coming, resolution.signal.barrier = mark)
    (early : surroundings.clock ≤ deadline) :
    ∃ record outcome, (Wait.run deadline questions wait).Yields record outcome ∧
      surroundings.Follows record ∧ ∃ later, coming = resolvedIn mark record ++ later ∧
        ∀ resolution ∈ later, (surroundings.afterAll record).clock ≤ resolution.instant := by
  induction questions generalizing wait surroundings coming with
  | zero =>
    exact ⟨[], _, ⟨rfl, rfl⟩, trivial, coming, rfl, fun resolution there =>
      ((Surroundings.clock_le_of_undergoes possible).2 resolution there).1⟩
  | succ questions inductionHypothesis =>
    cases finished : wait.takeArrived.isOver with
    | true =>
      refine ⟨[], wait.takeArrived.finish false, ?_, trivial, coming, rfl, fun resolution there =>
        ((Surroundings.clock_le_of_undergoes possible).2 resolution there).1⟩
      rw [run, if_pos finished]
      exact ⟨rfl, rfl⟩
    | false =>
      have goesOn : wait.takeArrived.isOver ≠ true := by
        rw [finished]
        exact Bool.false_ne_true
      subst marked
      by_cases late : ∀ resolution ∈ coming, deadline ≤ resolution.instant
      · refine ⟨[⟨.nextArrival wait.barrier.mark deadline, none, [], deadline⟩],
          wait.takeArrived.finish true, ?_, ?_, coming, rfl, late⟩
        · rw [run, if_neg goesOn]
          exact yields_ask_bind.mpr ⟨none, [], deadline, [], rfl, rfl, rfl⟩
        · exact ⟨trivial, early, ⟨unheard, (Nat.max_eq_right early).symm⟩, trivial⟩
      · obtain _ | ⟨first, coming⟩ := coming
        · exact absurd (fun resolution there => absurd there List.not_mem_nil) late
        · obtain ⟨isOpen, later, rest⟩ := possible
          have soon : first.instant ≤ deadline := by
            refine Nat.le_of_not_le fun after => late fun resolution there => ?_
            rcases List.mem_cons.mp there with rfl | there
            · exact after
            · exact Nat.le_trans after ((Surroundings.clock_le_of_undergoes rest).2 resolution there).1
          obtain ⟨follows, heard⟩ := Surroundings.follows_arrival isOpen
            (own first List.mem_cons_self) later soon unheard
          have marked : Barrier.mark (Wait.barrier { wait.takeArrived with
              barrier := wait.takeArrived.barrier.resolve first.arrival }) = wait.barrier.mark := rfl
          obtain ⟨record, outcome, yields, rests, last, all, kept⟩ := inductionHypothesis marked heard
            (rest.congr rfl rfl)
            (fun resolution there => own resolution (List.mem_cons_of_mem _ there)) soon
          refine ⟨⟨.nextArrival wait.barrier.mark deadline, some first.arrival, [first],
            first.instant⟩ :: record, outcome, ?_, ?_, last, ?_, kept⟩
          · rw [run, if_neg goesOn]
            exact yields_ask_bind.mpr ⟨some first.arrival, [first], first.instant, record, rfl, yields⟩
          · exact ⟨follows.1, follows.2.1, follows.2.2.1, rests⟩
          · have one : Exchange.resolved wait.barrier.mark ⟨.nextArrival wait.barrier.mark deadline,
                some first.arrival, [first], first.instant⟩ = [first] :=
              Exchange.resolved_of_own fun other there =>
                List.mem_singleton.mp there ▸ own first List.mem_cons_self
            rw [resolvedIn, List.flatMap_cons, one]
            exact congrArg (first :: ·) all

namespace Scene

/-- Every scene can be played. -/
theorem exists_unfolds (scene : Scene) : ∃ record outcome, scene.Unfolds record outcome := by
  obtain ⟨record, outcome, yields, follows, later, coming, after⟩ :=
    @Wait.exists_run scene.mark scene.deadline (scene.barrier.remaining + 1)
      { barrier := scene.barrier } scene.start scene.coming mark_foldl_act scene.unheard scene.undergoes
      scene.own (Nat.le_add_right _ _)
  refine ⟨⟨.now, scene.start.clock, [], scene.start.clock⟩ :: record, outcome, ?_, ?_, ?_⟩
  · exact yields_ask_bind.mpr ⟨scene.start.clock, [], scene.start.clock, record, rfl, yields⟩
  · exact ⟨trivial, Nat.le_refl _, ⟨rfl, rfl, rfl⟩, follows⟩
  · exact ⟨later, coming, after⟩

end Scene

/-! ### What a wait hears -/

/-- Where signals are resolved at different instants, each answer brings the one resolution that happened
since the question. So a wait that begins without news ends without news. -/
theorem Awaits.mailFor_eq_nil {mark deadline : Nat} {record : List Exchange} {arrivals : List Arrival}
    {expired : Bool} {surroundings : Surroundings} (awaits : Awaits mark deadline record arrivals expired)
    (follows : surroundings.Follows record) (unheard : surroundings.mailFor mark = [])
    (apart : (resolvedIn mark record).Pairwise fun first second => first.instant < second.instant) :
    (surroundings.afterAll record).mailFor mark = [] := by
  induction awaits generalizing surroundings with
  | enough => exact unheard
  | expired resolved instant => exact follows.2.2.1.1
  | @arrived arrival resolved instant record _ _ rest inductionHypothesis =>
    obtain ⟨-, between⟩ := Surroundings.instant_of_follows follows
    obtain ⟨-, -, allowed, goesOn⟩ := follows
    have heard := Surroundings.heard_append_mailFor_after mark allowed
    obtain ⟨resolution, later, news, -, ends, -⟩ := allowed
    rw [resolvedIn, List.flatMap_cons] at apart
    refine inductionHypothesis goesOn ?_ (List.pairwise_append.mp apart).2.1
    rw [news, Exchange.heard, if_pos rfl] at heard
    rw [Surroundings.mailFor_meanwhile, unheard, List.nil_append] at news
    have inside : ∀ other ∈ resolution :: later, other ∈ resolved := fun other there =>
      (List.mem_filter.mp (news ▸ there)).1
    have passed := (between resolution (inside resolution List.mem_cons_self)).1
    rw [Nat.max_eq_right passed] at ends
    have none : later = [] := by
      refine List.eq_nil_iff_forall_not_mem.mpr fun other there => ?_
      have after := (List.pairwise_cons.mp (news ▸ (List.pairwise_append.mp apart).1)).1 other there
      have before := (between other (inside other (List.mem_cons_of_mem _ there))).2
      exact Nat.not_le_of_lt after (ends ▸ before)
    rw [none] at heard
    exact List.map_eq_nil_iff.mp (List.cons.inj heard).2

namespace Scene

variable {scene : Scene} {record : List Exchange} {outcome : BarrierOutcome}

theorem remaining_barrier : scene.barrier.remaining = scene.awaited :=
  remaining_foldl_act scene.small

theorem arrived_barrier : scene.barrier.list.arrived = scene.early :=
  arrived_foldl_act

/-- Each signal that was given out is resolved once, before the wait or in the course of it or later, or
it stays open. -/
theorem issued_perm : (scene.deeds.filterMap Deed.issued?).Perm (scene.events.map (·.name) ++
    (scene.coming.foldl Surroundings.resolve scene.start).openFor scene.mark) := by
  have before := scene.possible.perm
  have after := Surroundings.resolved_names_append_openFor scene.mark scene.undergoes
  have mine : scene.coming.filter (·.signal.barrier = scene.mark) = scene.coming :=
    List.filter_eq_self.mpr fun resolution there => decide_eq_true (scene.own resolution there)
  rw [mine] at after
  refine before.trans (((scene.unresolved.symm.trans after).append_left _).trans (List.Perm.of_eq ?_))
  rw [events, early, List.map_append, List.map_map, List.append_assoc]
  rfl

/-- The last of some resolutions to come is not before the others, nor before the wait begins. -/
theorem le_instant_of_coming {before later : List Resolution} {last : Resolution}
    (coming : scene.coming = before ++ [last] ++ later) :
    ∀ moment ∈ scene.start.clock :: (before ++ [last]).map (·.instant), moment ≤ last.instant := by
  intro moment among
  have apart := scene.apart
  rw [coming, List.append_assoc] at apart
  have inside : last ∈ scene.coming := by
    rw [coming]
    simp
  rcases List.mem_cons.mp among with same | there
  · rw [same]
    exact ((Surroundings.clock_le_of_undergoes scene.undergoes).2 last inside).1
  · obtain ⟨other, inHeard, rfl⟩ := List.mem_map.mp there
    rcases List.mem_append.mp inHeard with earlier | same
    · exact Nat.le_of_lt ((List.pairwise_append.mp apart).2.2 other earlier last List.mem_cons_self)
    · exact Nat.le_of_eq (congrArg (·.instant) (List.mem_singleton.mp same))

/-- What a wait hears of in a scene, and when it ends: it hears of the first resolutions to come, of all
that are before the deadline if it ends there. -/
structure Hears (scene : Scene) (outcome : BarrierOutcome) (ended : Nat) (heard : List Resolution)
    (expired : Bool) : Prop where
  ends : Wait.Ends { barrier := scene.barrier } (heard.map Resolution.arrival) expired outcome
  within : ∀ resolution ∈ heard, resolution.instant < scene.deadline
  coming : ∃ later, scene.coming = heard ++ later ∧
    (expired = true → ∀ resolution ∈ later, scene.deadline ≤ resolution.instant)
  late : expired = true → ended = scene.deadline
  early : expired = false → IsLatest (scene.start.clock :: heard.map (·.instant)) ended

theorem Unfolds.hears (unfolds : scene.Unfolds record outcome) :
    ∃ heard expired, scene.Hears outcome (scene.returned record) heard expired := by
  obtain ⟨yields, follows, later, coming, after⟩ := unfolds
  obtain ⟨instant, rest, arrivals, expired, rfl, awaits, ends, goesOn, still⟩ :=
    Barrier.yields_await_of_follows yields follows
  have marked : scene.barrier.mark = scene.mark := mark_foldl_act
  rw [marked] at awaits
  have finish : scene.returned (⟨.now, scene.start.clock, [], instant⟩ :: rest) =
      (scene.start.afterAll rest).clock := congrArg Surroundings.clock still
  have same : resolvedIn scene.mark (⟨.now, scene.start.clock, [], instant⟩ :: rest) =
      resolvedIn scene.mark rest := rfl
  rw [same] at coming
  rw [finish] at after ⊢
  have apart := scene.apart
  rw [coming] at apart
  have unheard := awaits.mailFor_eq_nil goesOn scene.unheard (List.pairwise_append.mp apart).1
  have mail := Surroundings.following_mail scene.mark goesOn
  rw [scene.unheard, List.nil_append, awaits.heardIn_eq, unheard, List.map_nil, List.append_nil] at mail
  obtain ⟨bound, atDeadline⟩ := awaits.clock_of_expired goesOn (Nat.le_add_right _ _)
  have punctual : scene.start.Punctual scene.mark := by
    intro resolution there
    rw [scene.unheard] at there
    exact absurd there List.not_mem_nil
  refine ⟨resolvedIn scene.mark rest, expired, ?_, fun resolution there => ?_, ⟨later, coming, ?_⟩,
    fun late => (atDeadline late).1, awaits.isLatest_of_early goesOn punctual⟩
  · rw [mail]
    exact ends
  · refine Nat.lt_of_le_of_ne ?_ (scene.missed resolution ?_)
    · exact Nat.le_trans (Surroundings.instant_le_afterAll scene.mark goesOn resolution there) bound
    · rw [coming]
      exact List.mem_append_left _ there
  · intro late resolution there
    exact Nat.le_trans (Nat.le_of_eq (atDeadline late).1.symm) (after resolution there)

namespace Hears

variable {ended : Nat} {heard : List Resolution} {expired : Bool}

/-- What is heard is timely, and at the deadline it is all that is timely. -/
theorem soon (hears : scene.Hears outcome ended heard expired) :
    ∃ later, scene.coming.filter (·.instant < scene.deadline) = heard ++ later ∧
      (expired = true → later = []) := by
  obtain ⟨later, coming, after⟩ := hears.coming
  refine ⟨later.filter (·.instant < scene.deadline), ?_, fun late => ?_⟩
  · rw [coming, List.filter_append, List.filter_eq_self.mpr fun resolution there =>
      decide_eq_true (hears.within resolution there)]
  · exact List.filter_eq_nil_iff.mpr fun resolution there before =>
      Nat.not_lt_of_le (after late resolution there) (of_decide_eq_true before)

/-- The wait ends at its deadline just if fewer than awaited are timely. -/
theorem expired_iff (hears : scene.Hears outcome ended heard expired) :
    expired = true ↔ scene.timely.length < scene.awaited := by
  obtain ⟨later, soon, all⟩ := hears.soon
  have lengths : scene.timely.length = scene.early.length + heard.length + later.length := by
    rw [timely, soon]
    simp only [List.length_append, List.length_map]
    omega
  have fewer := hears.ends.fewer
  have enough := hears.ends.enough
  dsimp only at fewer enough
  rw [arrived_barrier, remaining_barrier, List.length_append, List.length_map] at fewer enough
  cases expired with
  | true =>
    refine iff_of_true rfl ?_
    rw [lengths, all rfl]
    exact fewer rfl
  | false =>
    refine iff_of_false Bool.false_ne_true (Nat.not_lt_of_le ?_)
    rw [lengths]
    exact Nat.le_trans (enough rfl) (Nat.le_add_right _ _)

/-- A wait that ends before its deadline heard of as many as were still awaited when it began. -/
theorem length_eq (hears : scene.Hears outcome ended heard false) :
    heard.length = scene.awaited - scene.early.length := by
  have enough := hears.ends.enough rfl
  have most := hears.ends.most
  dsimp only at enough most
  rw [arrived_barrier, remaining_barrier, List.length_map] at most
  rw [arrived_barrier, remaining_barrier, List.length_append, List.length_map] at enough
  omega

/-- The open names at the end, in order. -/
theorem pending (hears : scene.Hears outcome ended heard expired) :
    outcome.pending.Pairwise (· < ·) ∧
      ∀ name, name ∈ outcome.pending ↔ scene.lists heard name = true := by
  have kept : (heard.map Resolution.arrival).foldl WaitingList.resolve scene.barrier.list =
      ((scene.deeds ++ heard.map fun resolution => Deed.resolve resolution.arrival).foldl Deed.act
        { mark := scene.mark, remaining := scene.initial }).list := by
    rw [List.foldl_append, ← list_foldl_resolve, List.map_map]
    rfl
  rw [hears.ends.pending, kept]
  refine ⟨pairwise_sortedNames (nodup_unresolved_foldl_act List.nodup_nil), fun name => ?_⟩
  rw [sortedNames, List.mem_mergeSort, mem_unresolved_foldl_act]
  rfl

/-- What is taken is the first of all that is heard of, as far as it is awaited. -/
theorem closes (hears : scene.Hears outcome ended heard expired) :
    scene.Closes outcome
      ((scene.early ++ heard.map Resolution.arrival).take scene.awaited) heard := by
  have completed := hears.ends.completed
  have abandoned := hears.ends.abandoned
  dsimp only at completed abandoned
  rw [arrived_barrier, remaining_barrier] at completed abandoned
  exact ⟨completed, abandoned, hears.pending.1, hears.pending.2⟩

/-- A wait that ends before its deadline returns with the last arrival that it awaited, at once if that
had happened when it began. -/
theorem ended_eq (hears : scene.Hears outcome ended heard false) :
    (scene.awaited ≤ scene.early.length → ended = scene.start.clock) ∧
      (scene.early.length < scene.awaited →
        (scene.events[scene.awaited - 1]?).map (·.instant) = some ended) := by
  obtain ⟨among, latest⟩ := hears.early rfl
  have length := hears.length_eq
  obtain ⟨later, coming, -⟩ := hears.coming
  refine ⟨fun enough => ?_, fun few => ?_⟩
  · have none : heard = [] := List.eq_nil_of_length_eq_zero (length.trans (Nat.sub_eq_zero_of_le enough))
    rw [none] at among
    exact List.mem_singleton.mp among
  · obtain rfl | ⟨before, last, rfl⟩ := heard.eq_nil_or_concat'
    · simp only [List.length_nil] at length
      omega
    have place : scene.events[scene.awaited - 1]? = some last.arrival := by
      have index : scene.awaited - 1 = scene.early.length + (before.map Resolution.arrival).length := by
        simp only [List.length_append, List.length_singleton, List.length_map] at length ⊢
        omega
      rw [events, coming, index]
      simp
    rw [place]
    exact congrArg some (Nat.le_antisymm (latest last.instant (by simp))
      (le_instant_of_coming coming ended among))

end Hears

end Scene

/-! ### The outcome -/

/-- A wait begins with the count that its owner left, whatever became of the signals. Each signal that was
given out is resolved once or still open, and every scene can be played.

If as many as awaited are timely, the wait takes just that many of all that arrives, in order, and is not
timed out; it returns at the instant of the last of them, or at once if it had happened before. Otherwise
it takes all that is timely, is timed out and returns at the deadline. The names left over, in order, are
those listed as open after all that happened by then. -/
theorem wait_takes_what_is_timely (scene : Scene) :
    scene.barrier.remaining = scene.awaited ∧
    (scene.deeds.filterMap Deed.issued?).Perm (scene.events.map (·.name) ++
      (scene.coming.foldl Surroundings.resolve scene.start).openFor scene.mark) ∧
    (∃ record outcome, scene.Unfolds record outcome) ∧
    ∀ record outcome, scene.Unfolds record outcome →
      (scene.awaited ≤ scene.timely.length →
        outcome.timedOut = false ∧
        scene.Closes outcome (scene.events.take scene.awaited)
          (scene.coming.take (scene.awaited - scene.early.length)) ∧
        (scene.awaited ≤ scene.early.length → scene.returned record = scene.start.clock) ∧
        (scene.early.length < scene.awaited →
          (scene.events[scene.awaited - 1]?).map (·.instant) = some (scene.returned record))) ∧
      (scene.timely.length < scene.awaited →
        outcome.timedOut = true ∧
        scene.Closes outcome scene.timely (scene.coming.filter (·.instant < scene.deadline)) ∧
        scene.returned record = scene.deadline) := by
  refine ⟨Scene.remaining_barrier, Scene.issued_perm, scene.exists_unfolds,
    fun record outcome unfolds => ?_⟩
  obtain ⟨heard, expired, hears⟩ := unfolds.hears
  have closes := hears.closes
  have timedOut := hears.ends.timedOut
  refine ⟨fun enough => ?_, fun fewer => ?_⟩
  · have early : expired = false := by
      refine Bool.eq_false_iff.mpr fun late => ?_
      exact Nat.not_lt_of_le enough (hears.expired_iff.mp late)
    subst early
    have length := hears.length_eq
    obtain ⟨later, coming, -⟩ := hears.coming
    have meanwhile : scene.coming.take (scene.awaited - scene.early.length) = heard := by
      rw [← length, coming, List.take_left]
    have taken : scene.events.take scene.awaited =
        (scene.early ++ heard.map Resolution.arrival).take scene.awaited := by
      have enough : scene.awaited ≤ (scene.early ++ heard.map Resolution.arrival).length := by
        simp only [List.length_append, List.length_map]
        omega
      rw [Scene.events, coming, List.map_append, ← List.append_assoc, List.take_append_of_le_length enough]
    rw [meanwhile, taken]
    exact ⟨timedOut, closes, hears.ended_eq⟩
  · have late := hears.expired_iff.mpr fewer
    obtain ⟨later, soon, none⟩ := hears.soon
    rw [none late, List.append_nil] at soon
    have all : (scene.early ++ heard.map Resolution.arrival).take scene.awaited = scene.timely := by
      rw [Scene.timely, soon]
      refine List.take_of_length_le (Nat.le_of_lt ?_)
      rw [Scene.timely, soon] at fewer
      exact fewer
    rw [all] at closes
    rw [soon]
    exact ⟨timedOut.trans late, closes, hears.late late⟩

/-- A barrier that gives out two signals under one name. It is counted down more often than it has
signals to await, so that two extensions in the end make it await two. One signal of the two is resolved
before the wait. -/
def longWait : Scene where
  mark := 1
  initial := 1
  deeds := [.issue "mailer", .issue "mailer", .countDown, .countDown, .extend, .extend,
    .resolve ⟨"mailer", .completed, 8⟩, .issue "queue"]
  timeout := 20
  start := { clock := 10, unresolved := [⟨1, "mailer"⟩, ⟨1, "queue"⟩] }
  coming := [⟨⟨1, "queue"⟩, .abandoned, 15⟩, ⟨⟨1, "mailer"⟩, .completed, 40⟩]
  possible := by simp [Deed.Possible, Deed.arrival?, Deed.opened]
  small := by decide
  unheard := rfl
  unresolved := by decide
  undergoes := by simp [Surroundings.Undergoes, Surroundings.resolve]
  own := by decide
  apart := by decide
  missed := by decide

/-- The same barrier, waited for too short a time. -/
def shortWait : Scene :=
  { longWait with
    timeout := 4
    missed := by decide }

/-- The long wait ends with the signal of the queue. The short wait leaves that one open; the other signal
of the mailer is open too, but is not listed any more. -/
theorem waits_for_mailer_and_queue :
    (∃ record outcome, longWait.Unfolds record outcome ∧ outcome.timedOut = false ∧
      outcome.completed = ["mailer"] ∧ outcome.abandoned = ["queue"] ∧
      longWait.returned record = 15) ∧
    ∃ record outcome, shortWait.Unfolds record outcome ∧ outcome.timedOut = true ∧
      outcome.completed = ["mailer"] ∧ outcome.abandoned = [] ∧
      "queue" ∈ outcome.pending ∧ "mailer" ∉ outcome.pending ∧ shortWait.returned record = 14 := by
  constructor
  · obtain ⟨-, -, ⟨record, outcome, unfolds⟩, ends⟩ := wait_takes_what_is_timely longWait
    obtain ⟨inTime, closes, -, returns⟩ := (ends record outcome unfolds).1 (by decide)
    refine ⟨record, outcome, unfolds, inTime, closes.completed, closes.abandoned, ?_⟩
    exact (Option.some.inj (returns (by decide))).symm
  · obtain ⟨-, -, ⟨record, outcome, unfolds⟩, ends⟩ := wait_takes_what_is_timely shortWait
    obtain ⟨late, closes, returns⟩ := (ends record outcome unfolds).2 (by decide)
    refine ⟨record, outcome, unfolds, late, closes.completed, closes.abandoned, ?_, ?_, returns⟩
    · exact (closes.pending "queue").mpr (by decide)
    · exact fun listed => absurd ((closes.pending "mailer").mp listed) (by decide)

end PhasedLifecycle
