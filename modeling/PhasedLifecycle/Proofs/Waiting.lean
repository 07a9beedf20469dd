/-
This file follows the signals of one barrier from the calls that hand them out to the end of the
wait. The waiting list of a barrier can be read off a record: names enter it as signals are given
out, and leave it as the barrier hears of them. In surroundings that follow the record, the list
holds exactly the names of which the barrier has not heard.

A wait takes what has arrived, in order, and asks for more until as much was taken as is awaited or
the deadline has passed; its outcome and its end depend on the arrivals alone.
-/

import PhasedLifecycle.Proofs.Surroundings

namespace PhasedLifecycle

open Pass

/-! ### The waiting list -/

namespace WaitingList

/-- The waiting list after an exchange. -/
def read (mark : Nat) (list : WaitingList) (exchange : Exchange) : WaitingList :=
  (exchange.heard mark).foldl resolve ((exchange.issued mark).foldl enter list)

/-- The waiting list after a record. -/
def readAll (mark : Nat) (list : WaitingList) (record : List Exchange) : WaitingList :=
  record.foldl (read mark) list

theorem readAll_append (mark : Nat) (list : WaitingList) (first last : List Exchange) :
    list.readAll mark (first ++ last) = (list.readAll mark first).readAll mark last :=
  List.foldl_append

theorem unresolved_foldl_enter {list : WaitingList} {names : List String}
    (fresh : (list.unresolved ++ names).Nodup) :
    (names.foldl enter list).unresolved = list.unresolved ++ names := by
  induction names generalizing list with
  | nil => simp
  | cons name names inductionHypothesis =>
    have new : name ∉ list.unresolved := fun there =>
      (List.nodup_append.mp fresh).2.2 name there name List.mem_cons_self rfl
    have entered : list.enter name = { list with unresolved := list.unresolved ++ [name] } :=
      if_neg new
    rw [List.foldl_cons, entered, inductionHypothesis]
    · exact List.append_assoc _ _ _
    · simpa using fresh

theorem arrived_foldl_enter (list : WaitingList) (names : List String) :
    (names.foldl enter list).arrived = list.arrived := by
  induction names generalizing list with
  | nil => rfl
  | cons name names inductionHypothesis =>
    rw [List.foldl_cons, inductionHypothesis, enter]
    split <;> rfl

theorem foldl_resolve (list : WaitingList) (arrivals : List Arrival) :
    arrivals.foldl resolve list =
      { unresolved := list.unresolved.filter (· ∉ arrivals.map (·.name))
        arrived := list.arrived ++ arrivals } := by
  induction arrivals generalizing list with
  | nil =>
    have all : list.unresolved.filter (· ∉ ([] : List Arrival).map (·.name)) = list.unresolved :=
      List.filter_eq_self.mpr fun name _ => decide_eq_true List.not_mem_nil
    rw [all, List.append_nil]
    rfl
  | cons arrival arrivals inductionHypothesis =>
    have both : (list.unresolved.filter (· ≠ arrival.name)).filter
        (· ∉ arrivals.map (·.name)) =
          list.unresolved.filter (· ∉ (arrival :: arrivals).map (·.name)) := by
      rw [List.filter_filter]
      refine List.filter_congr fun name _ => ?_
      rw [← Bool.decide_and, List.map_cons, decide_eq_decide, List.mem_cons, not_or, and_comm]
    rw [List.foldl_cons, inductionHypothesis, ← both, resolve, List.append_assoc]
    rfl

theorem arrived_readAll (mark : Nat) (list : WaitingList) (record : List Exchange) :
    (list.readAll mark record).arrived = list.arrived ++ heardIn mark record := by
  induction record generalizing list with
  | nil => exact (List.append_nil _).symm
  | cons exchange record inductionHypothesis =>
    show ((list.read mark exchange).readAll mark record).arrived = _
    rw [inductionHypothesis, read, foldl_resolve]
    simp only [arrived_foldl_enter]
    rw [heardIn, heardIn, List.flatMap_cons, List.append_assoc]

/-- A list keeps the names of which the barrier has not heard: those of its news, and those of its
open signals. -/
def Keeps (mark : Nat) (surroundings : Surroundings) (list : WaitingList) : Prop :=
  list.unresolved.Perm
    ((surroundings.mailFor mark).map (·.signal.name) ++ surroundings.openFor mark)

/-- In surroundings that follow a record, the waiting list keeps the names of which the barrier has not
heard, as long as no name is given out while it is on the list. The list has the names in the order in
which they will be heard of, the open ones last. -/
theorem Keeps.readAll {mark : Nat} {surroundings : Surroundings} {list : WaitingList}
    {record : List Exchange} (keeps : list.Keeps mark surroundings)
    (follows : surroundings.Follows record)
    (fresh : (list.unresolved ++ issuedIn mark record).Nodup) :
    (list.readAll mark record).Keeps mark (surroundings.afterAll record) := by
  induction record generalizing surroundings list with
  | nil => exact keeps
  | cons exchange record inductionHypothesis =>
    obtain ⟨possible, -, allowed, rest⟩ := follows
    rw [issuedIn, List.flatMap_cons, ← List.append_assoc] at fresh
    have entered := unresolved_foldl_enter (fresh.sublist (List.sublist_append_left _ _))
    have news := Surroundings.heard_append_mailFor_after mark allowed
    rw [Surroundings.mailFor_meanwhile] at news
    have names := congrArg (List.map Arrival.name) news
    rw [List.map_append, List.map_map, List.map_map, List.map_append] at names
    have opened := Surroundings.resolved_names_append_openFor mark possible
    rw [Surroundings.openFor_give] at opened
    have queue : (list.unresolved ++ exchange.issued mark).Perm
        ((exchange.heard mark).map (·.name) ++
          (((surroundings.after exchange).mailFor mark).map (·.signal.name) ++
            (surroundings.after exchange).openFor mark)) := by
      refine (keeps.append_right _).trans ?_
      rw [List.append_assoc]
      refine (opened.append_left _).trans ?_
      rw [← List.append_assoc, ← List.append_assoc]
      refine List.Perm.append_right _ (List.Perm.of_eq ?_)
      exact names.symm
    have once : ((exchange.heard mark).map (·.name) ++
        (((surroundings.after exchange).mailFor mark).map (·.signal.name) ++
          (surroundings.after exchange).openFor mark)).Nodup :=
      queue.nodup_iff.mp (fresh.sublist (List.sublist_append_left _ _))
    have kept : (list.read mark exchange).Keeps mark (surroundings.after exchange) := by
      rw [Keeps, read, foldl_resolve, entered]
      refine (queue.filter _).trans ?_
      rw [List.filter_append, List.filter_eq_nil_iff.mpr, List.filter_eq_self.mpr]
      · exact List.Perm.refl _
      · intro name there
        exact decide_eq_true fun heard => (List.nodup_append.mp once).2.2 name heard name there rfl
      · intro name heard
        exact fun absent => of_decide_eq_true absent heard
    refine inductionHypothesis kept rest (fresh.sublist (List.Sublist.append_right ?_ _))
    rw [read, foldl_resolve, entered]
    exact List.filter_sublist

end WaitingList

/-! ### The wait -/

/-- The names among arrivals whose signals ended in one way, as they arrived. -/
def endedIn (ending : Ending) (arrivals : List Arrival) : List String :=
  (arrivals.filter (·.ending = ending)).map (·.name)

theorem endedIn_append (ending : Ending) (first last : List Arrival) :
    endedIn ending (first ++ last) = endedIn ending first ++ endedIn ending last := by
  rw [endedIn, List.filter_append, List.map_append]
  rfl

theorem BarrierOutcome.foldl_take (outcome : BarrierOutcome) (arrivals : List Arrival) :
    arrivals.foldl take outcome =
      { outcome with
        completed := outcome.completed ++ endedIn .completed arrivals
        abandoned := outcome.abandoned ++ endedIn .abandoned arrivals } := by
  induction arrivals generalizing outcome with
  | nil => simp [endedIn]
  | cons arrival arrivals inductionHypothesis =>
    obtain ⟨name, ending, instant⟩ := arrival
    rw [List.foldl_cons, inductionHypothesis]
    cases ending <;> simp [take, endedIn]

/-- The questions of a wait. Each but the last brings an arrival; the last may bring none, which
tells that the deadline has passed. -/
inductive Awaits (mark deadline : Nat) : List Exchange → List Arrival → Bool → Prop
  | enough : Awaits mark deadline [] [] false
  | expired (resolved : List Resolution) (instant : Nat) :
    Awaits mark deadline [⟨.nextArrival mark deadline, none, resolved, instant⟩] [] true
  | arrived (arrival : Arrival) (resolved : List Resolution) (instant : Nat) {record : List Exchange}
    {arrivals : List Arrival} {expired : Bool} (rest : Awaits mark deadline record arrivals expired) :
    Awaits mark deadline (⟨.nextArrival mark deadline, some arrival, resolved, instant⟩ :: record)
      (arrival :: arrivals) expired

theorem Awaits.heardIn_eq {mark deadline : Nat} {record : List Exchange} {arrivals : List Arrival}
    {expired : Bool} (awaits : Awaits mark deadline record arrivals expired) :
    heardIn mark record = arrivals := by
  induction awaits with
  | enough => rfl
  | expired resolved instant => rfl
  | arrived arrival resolved instant rest inductionHypothesis =>
    rw [heardIn, List.flatMap_cons, Exchange.heard, if_pos rfl]
    exact congrArg (arrival :: ·) inductionHypothesis

theorem Awaits.issuedIn_eq {mark deadline : Nat} {record : List Exchange} {arrivals : List Arrival}
    {expired : Bool} (awaits : Awaits mark deadline record arrivals expired) (barrier : Nat) :
    issuedIn barrier record = [] := by
  induction awaits with
  | enough => rfl
  | expired resolved instant => rfl
  | arrived arrival resolved instant rest inductionHypothesis => exact inductionHypothesis

theorem Awaits.readAll_eq {mark deadline : Nat} {record : List Exchange} {arrivals : List Arrival}
    {expired : Bool} (awaits : Awaits mark deadline record arrivals expired) (list : WaitingList) :
    list.readAll mark record = arrivals.foldl WaitingList.resolve list := by
  induction awaits generalizing list with
  | enough => rfl
  | expired resolved instant => rfl
  | @arrived arrival resolved instant record _ _ rest inductionHypothesis =>
    have heard : list.read mark ⟨.nextArrival mark deadline, some arrival, resolved, instant⟩ =
        list.resolve arrival := by
      rw [WaitingList.read, Exchange.heard, if_pos rfl]
      rfl
    show (list.read mark _).readAll mark record = _
    rw [heard]
    exact inductionHypothesis (list.resolve arrival)

/-- What a wait makes of the arrivals: it takes as many as are awaited, in order, and asks for no more
than that; it ends at the deadline just if there were fewer. -/
structure Wait.Ends (wait : Wait) (arrivals : List Arrival) (expired : Bool)
    (outcome : BarrierOutcome) : Prop where
  completed : outcome.completed = wait.outcome.completed ++ endedIn .completed
    ((wait.barrier.list.arrived ++ arrivals).take wait.barrier.remaining)
  abandoned : outcome.abandoned = wait.outcome.abandoned ++ endedIn .abandoned
    ((wait.barrier.list.arrived ++ arrivals).take wait.barrier.remaining)
  pending : outcome.pending = sortedNames (arrivals.foldl WaitingList.resolve
    wait.barrier.list).unresolved
  timedOut : outcome.timedOut = expired
  fewer : expired = true →
    (wait.barrier.list.arrived ++ arrivals).length < wait.barrier.remaining
  enough : expired = false →
    wait.barrier.remaining ≤ (wait.barrier.list.arrived ++ arrivals).length
  most : arrivals.length ≤ wait.barrier.remaining - wait.barrier.list.arrived.length

theorem Wait.takeArrived_of_enough {wait : Wait}
    (enough : wait.barrier.remaining ≤ wait.barrier.list.arrived.length) :
    wait.takeArrived.isOver = true ∧
      wait.Ends [] false (wait.takeArrived.finish false) := by
  have length : (wait.barrier.list.arrived.take wait.barrier.remaining).length =
      wait.barrier.remaining := by
    rw [List.length_take, Nat.min_eq_left enough]
  refine ⟨?_, ?_⟩
  · rw [isOver, takeArrived]
    dsimp only
    rw [length, Nat.sub_self]
    rfl
  · constructor
    · simp [takeArrived, finish, BarrierOutcome.foldl_take]
    · simp [takeArrived, finish, BarrierOutcome.foldl_take]
    · rfl
    · rfl
    · exact fun expired => Bool.noConfusion expired
    · intro _
      simpa using enough
    · exact Nat.zero_le _

theorem Wait.takeArrived_of_few {wait : Wait}
    (few : wait.barrier.list.arrived.length < wait.barrier.remaining) :
    wait.takeArrived.isOver = false ∧ wait.takeArrived =
      { barrier :=
          { wait.barrier with
            remaining := wait.barrier.remaining - wait.barrier.list.arrived.length
            list := { wait.barrier.list with arrived := [] } }
        outcome := wait.barrier.list.arrived.foldl BarrierOutcome.take wait.outcome } := by
  have all : wait.barrier.list.arrived.take wait.barrier.remaining = wait.barrier.list.arrived :=
    List.take_of_length_le (Nat.le_of_lt few)
  have taken : wait.takeArrived =
      { barrier :=
          { wait.barrier with
            remaining := wait.barrier.remaining - wait.barrier.list.arrived.length
            list := { wait.barrier.list with arrived := [] } }
        outcome := wait.barrier.list.arrived.foldl BarrierOutcome.take wait.outcome } := by
    rw [takeArrived]
    dsimp only
    rw [all, List.drop_length]
  refine ⟨?_, taken⟩
  rw [isOver, taken]
  exact beq_eq_false_iff_ne.mpr (by dsimp only; omega)

/-- A wait that has asked often enough has seen either as many arrivals as are awaited or the
deadline. -/
theorem Wait.yields_run {deadline questions : Nat} {wait : Wait} {record : List Exchange}
    {outcome : BarrierOutcome} (positive : 0 < questions)
    (often : wait.barrier.remaining < questions + wait.barrier.list.arrived.length)
    (yields : (run deadline questions wait).Yields record outcome) :
    ∃ arrivals expired, Awaits wait.barrier.mark deadline record arrivals expired ∧
      wait.Ends arrivals expired outcome := by
  induction questions generalizing wait record with
  | zero => exact absurd positive (Nat.lt_irrefl 0)
  | succ questions inductionHypothesis =>
    by_cases enough : wait.barrier.remaining ≤ wait.barrier.list.arrived.length
    · obtain ⟨isOver, ends⟩ := takeArrived_of_enough enough
      rw [run, if_pos isOver] at yields
      obtain ⟨rfl, rfl⟩ := yields
      exact ⟨[], false, .enough, ends⟩
    · have few := Nat.lt_of_not_le enough
      obtain ⟨notOver, taken⟩ := takeArrived_of_few few
      rw [run, if_neg (by rw [notOver]; exact Bool.false_ne_true), taken] at yields
      obtain ⟨answer, resolved, instant, rest, rfl, goesOn⟩ := yields_ask_bind.mp yields
      cases answer with
      | none =>
        obtain ⟨rfl, rfl⟩ := goesOn
        refine ⟨[], true, .expired resolved instant, ?_⟩
        have all : (wait.barrier.list.arrived ++ []).take wait.barrier.remaining =
            wait.barrier.list.arrived := by
          rw [List.append_nil]
          exact List.take_of_length_le (Nat.le_of_lt few)
        constructor
        · rw [all]
          simp [finish, BarrierOutcome.foldl_take]
        · rw [all]
          simp [finish, BarrierOutcome.foldl_take]
        · rfl
        · rfl
        · intro _
          simpa using few
        · exact fun early => Bool.noConfusion early
        · exact Nat.zero_le _
      | some arrival =>
        obtain ⟨arrivals, expired, awaits, ends⟩ := inductionHypothesis (by omega)
          (by dsimp only [Barrier.resolve, WaitingList.resolve]; simp only [List.nil_append,
            List.length_singleton]; omega) goesOn
        refine ⟨arrival :: arrivals, expired, .arrived arrival resolved instant awaits, ?_⟩
        have rearranged : (wait.barrier.list.arrived ++ arrival :: arrivals).take
            wait.barrier.remaining = wait.barrier.list.arrived ++ ([arrival] ++ arrivals).take
              (wait.barrier.remaining - wait.barrier.list.arrived.length) := by
          rw [List.take_append, List.take_of_length_le (Nat.le_of_lt few)]
          rfl
        constructor
        · rw [ends.completed, rearranged, endedIn_append]
          simp [BarrierOutcome.foldl_take, Barrier.resolve, WaitingList.resolve]
        · rw [ends.abandoned, rearranged, endedIn_append]
          simp [BarrierOutcome.foldl_take, Barrier.resolve, WaitingList.resolve]
        · rw [ends.pending, List.foldl_cons, WaitingList.foldl_resolve, WaitingList.foldl_resolve]
          rfl
        · exact ends.timedOut
        · intro late
          have := ends.fewer late
          simp [Barrier.resolve, WaitingList.resolve] at this ⊢
          omega
        · intro early
          have := ends.enough early
          simp [Barrier.resolve, WaitingList.resolve] at this ⊢
          omega
        · have := ends.most
          simp [Barrier.resolve, WaitingList.resolve] at this ⊢
          omega

/-- A wait begins by asking for the time, which sets the deadline. -/
theorem Barrier.yields_await {barrier : Barrier} {timeout : Nat} {record : List Exchange}
    {outcome : BarrierOutcome} (yields : (barrier.await timeout).Yields record outcome) :
    ∃ now resolved instant rest arrivals expired,
      record = ⟨.now, now, resolved, instant⟩ :: rest ∧
      Awaits barrier.mark (now + timeout) rest arrivals expired ∧
      Wait.Ends { barrier } arrivals expired outcome := by
  obtain ⟨now, resolved, instant, rest, rfl, runs⟩ := yields_ask_bind.mp yields
  obtain ⟨arrivals, expired, awaits, ends⟩ := Wait.yields_run (Nat.succ_pos barrier.remaining)
    (Nat.lt_of_lt_of_le (Nat.lt_succ_self barrier.remaining) (Nat.le_add_right _ _)) runs
  exact ⟨now, resolved, instant, rest, arrivals, expired, rfl, awaits, ends⟩

/-! ### The end of a wait -/

/-- Telling the time changes nothing. -/
theorem Surroundings.after_now {surroundings : Surroundings} {now instant : Nat}
    {resolved : List Resolution} {rest : List Exchange}
    (follows : surroundings.Follows (⟨.now, now, resolved, instant⟩ :: rest)) :
    now = surroundings.clock ∧
      surroundings.after ⟨.now, now, resolved, instant⟩ = surroundings ∧ resolved = [] := by
  obtain ⟨-, -, ⟨rfl, rfl, rfl⟩, -⟩ := follows
  exact ⟨rfl, rfl, rfl⟩

/-- In surroundings that it follows, a wait sets its deadline by their clock, and they have not changed
when its first arrival is asked for. -/
theorem Barrier.yields_await_of_follows {barrier : Barrier} {timeout : Nat} {record : List Exchange}
    {outcome : BarrierOutcome} {start : Surroundings}
    (yields : (barrier.await timeout).Yields record outcome) (follows : start.Follows record) :
    ∃ instant rest arrivals expired,
      record = ⟨.now, start.clock, [], instant⟩ :: rest ∧
      Awaits barrier.mark (start.clock + timeout) rest arrivals expired ∧
      Wait.Ends { barrier } arrivals expired outcome ∧
      start.Follows rest ∧ start.afterAll record = start.afterAll rest := by
  obtain ⟨now, resolved, instant, rest, arrivals, expired, rfl, awaits, ends⟩ := yields_await yields
  obtain ⟨rfl, still, rfl⟩ := Surroundings.after_now follows
  have goesOn := follows.2.2.2
  rw [still] at goesOn
  exact ⟨instant, rest, arrivals, expired, rfl, awaits, ends, goesOn, congrArg (·.afterAll rest) still⟩

/-- One of the moments, and no other of them is later. -/
def IsLatest (moments : List Nat) (moment : Nat) : Prop :=
  moment ∈ moments ∧ ∀ other ∈ moments, other ≤ moment

namespace Awaits

variable {mark deadline : Nat} {record : List Exchange} {arrivals : List Arrival} {expired : Bool}
  {surroundings : Surroundings}

/-- A wait that ends at its deadline ends exactly then, and no news is left unheard. -/
theorem clock_of_expired (awaits : Awaits mark deadline record arrivals expired)
    (follows : surroundings.Follows record) (early : surroundings.clock ≤ deadline) :
    (surroundings.afterAll record).clock ≤ deadline ∧
      (expired = true → (surroundings.afterAll record).clock = deadline ∧
        (surroundings.afterAll record).mailFor mark = []) := by
  induction awaits generalizing surroundings with
  | enough => exact ⟨early, fun expired => Bool.noConfusion expired⟩
  | expired resolved instant =>
    obtain ⟨-, -, ⟨unheard, rfl⟩, -⟩ := follows
    have ends : max surroundings.clock deadline = deadline := Nat.max_eq_right early
    exact ⟨Nat.le_of_eq ends, fun _ => ⟨ends, unheard⟩⟩
  | arrived arrival resolved instant rest inductionHypothesis =>
    obtain ⟨-, -, ⟨resolution, later, -, -, rfl, soon⟩, follows⟩ := follows
    rw [Nat.max_eq_right early] at soon
    exact inductionHypothesis follows (Nat.max_le.mpr ⟨early, soon⟩)

/-- A wait ends when it began or when one of the signals was resolved. -/
theorem clock_mem_of_early (awaits : Awaits mark deadline record arrivals expired)
    (follows : surroundings.Follows record) (punctual : surroundings.Punctual mark)
    (early : expired = false) :
    (surroundings.afterAll record).clock ∈
      surroundings.clock :: (resolvedIn mark record).map (·.instant) := by
  induction awaits generalizing surroundings with
  | enough => exact List.mem_cons_self
  | expired resolved instant => exact Bool.noConfusion early
  | @arrived arrival resolved instant record _ _ rest inductionHypothesis =>
    have punctualAfter := punctual.after follows
    obtain ⟨-, between⟩ := Surroundings.instant_of_follows follows
    obtain ⟨-, -, ⟨resolution, later, news, -, ends, -⟩, follows⟩ := follows
    have first : instant ∈ surroundings.clock ::
        (Exchange.resolved mark ⟨.nextArrival mark deadline, some arrival, resolved, instant⟩).map
          (·.instant) := by
      rw [Surroundings.mailFor_meanwhile] at news
      have there : resolution ∈ surroundings.mailFor mark ++
          Exchange.resolved mark ⟨.nextArrival mark deadline, some arrival, resolved, instant⟩ := by
        rw [news]
        exact List.mem_cons_self
      rcases List.mem_append.mp there with old | fresh
      · rw [ends, Nat.max_eq_left (punctual resolution old)]
        exact List.mem_cons_self
      · rw [ends, Nat.max_eq_right (between resolution (List.mem_filter.mp fresh).1).1]
        exact List.mem_cons_of_mem _ (List.mem_map_of_mem fresh)
    rw [resolvedIn, List.flatMap_cons, List.map_append, ← List.cons_append]
    rcases List.mem_cons.mp (inductionHypothesis follows punctualAfter early) with same | there
    · exact List.mem_append_left _ (same ▸ first)
    · exact List.mem_append_right _ there

/-- A wait that ends before its deadline ends with the last of the resolutions, or at once if there
is none. -/
theorem isLatest_of_early (awaits : Awaits mark deadline record arrivals expired)
    (follows : surroundings.Follows record) (punctual : surroundings.Punctual mark)
    (early : expired = false) :
    IsLatest (surroundings.clock :: (resolvedIn mark record).map (·.instant))
      (surroundings.afterAll record).clock := by
  refine ⟨awaits.clock_mem_of_early follows punctual early, fun moment there => ?_⟩
  rcases List.mem_cons.mp there with rfl | there
  · exact Surroundings.clock_le_afterAll follows
  · obtain ⟨resolution, resolved, rfl⟩ := List.mem_map.mp there
    exact Surroundings.instant_le_afterAll mark follows resolution resolved

end Awaits

end PhasedLifecycle
