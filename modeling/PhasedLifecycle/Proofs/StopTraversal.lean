/-
This file says what the traversal of a group in a stop pass does, whatever the registry answers: it
may list names in circles, name strangers, and answer differently each time. A span is a stretch of
the traversal. It takes some names out of the working set, gives each of them one turn, and all it
does to the barrier and to the report is what these turns tell. Two spans in a row make one span, so
a traversal is a span because each of its steps is one.
-/

import Mathlib.Algebra.GroupWithZero.Nat
import PhasedLifecycle.Proofs.Groups
import PhasedLifecycle.Proofs.Waiting

namespace PhasedLifecycle

open Pass

/-! ### The turn of one component -/

/-- What the turn of a component can be in a stop pass. -/
inductive StopTurn (mark : Nat) : Turn → Prop
  | idle (name : String) (component : Component) :
    StopTurn mark { name, component, ran := false }
  | stopping (name : String) (component : Component) (reason : Option String)
    (waits : component.isSmart = false) :
    StopTurn mark { name, component, ran := true, calls := [.stop component reason] }
  | signalling (name : String) (component : Component) (reason : Option String)
    (smart : component.isSmart = true) :
    StopTurn mark
      { name, component, ran := true, calls := [.stopAsync component { barrier := mark, name } reason] }

namespace Turn

/-- A signal is given out in the turn. -/
def signals (turn : Turn) : Bool :=
  turn.component.isSmart && turn.ran

/-- The signal given out in the turn is awaited in addition to the members of the group. -/
def isExtra (members : List String) (turn : Turn) : Bool :=
  turn.signals && !members.contains turn.name

/-- The turn is of a member that was to be awaited, but needs not be, because it does not run. -/
def isSpared (members : List String) (turn : Turn) : Bool :=
  turn.component.isSmart && !turn.ran && members.contains turn.name

end Turn

/-- Puts on record what the calls of a turn answered. -/
def StopReport.noteTurn (report : StopReport) (turn : Turn) : StopReport :=
  match turn.calls with
  | [.stop _ none] => report.recordStopped turn.name
  | [.stop _ (some reason)] => report.recordFailure turn.name reason
  | [.stopAsync _ _ (some reason)] => report.recordFailure turn.name reason
  | _ => report

/-- What the turn of one component does: nothing to the working set, and to the barrier and to the
report what the turn tells. -/
structure TurnSpan (members : List String) (record : List Exchange) (before after : Stopping)
    (turn : Turn) : Prop where
  reads : ∀ entered turns strays,
    ({ entered := turn.name :: entered, turns, strays } : Docket).readAll record =
      { entered, turns := turn :: turns, strays }
  left : after.left = before.left
  kind : StopTurn before.barrier.mark turn
  mark : after.barrier.mark = before.barrier.mark
  list : after.barrier.list = before.barrier.list.readAll before.barrier.mark record
  issued : issuedIn before.barrier.mark record = if turn.signals then [turn.name] else []
  report : after.report = before.report.noteTurn turn
  count : (turn.isSpared members).toNat ≤ before.barrier.remaining →
    before.barrier.remaining + (turn.isExtra members).toNat < 0x10000000000000000 →
    after.barrier.remaining + (turn.isSpared members).toNat =
      before.barrier.remaining + (turn.isExtra members).toNat

namespace Stopping

theorem yields_collect {stopping result : Stopping} {record : List Exchange}
    (yields : stopping.collect.Yields record result) :
    ∃ arrivals resolved instant,
      record = [⟨.arrivals stopping.barrier.mark, arrivals, resolved, instant⟩] ∧
      result = { stopping with
        barrier := { stopping.barrier with
          list := arrivals.foldl WaitingList.resolve stopping.barrier.list } } := by
  have folded : ∀ (arrivals : List Arrival) (barrier : Barrier),
      arrivals.foldl Barrier.resolve barrier =
        { barrier with list := arrivals.foldl WaitingList.resolve barrier.list } := by
    intro arrivals
    induction arrivals with
    | nil => exact fun barrier => rfl
    | cons arrival arrivals inductionHypothesis =>
      exact fun barrier => inductionHypothesis (barrier.resolve arrival)
  obtain ⟨arrivals, resolved, instant, _, rfl, rfl, rfl⟩ := yields_ask_bind.mp yields
  refine ⟨arrivals, resolved, instant, rfl, ?_⟩
  rw [folded]

theorem yields_fail {name reason : String} {stopping result : Stopping} {record : List Exchange}
    (yields : (fail name reason stopping).Yields record result) :
    ∃ resolved instant, record = [⟨.note (.stopFailed name reason), (), resolved, instant⟩] ∧
      result = { stopping with report := stopping.report.recordFailure name reason } := by
  obtain ⟨resolved, instant, _, rfl, rfl, rfl⟩ := yields_note_bind.mp yields
  exact ⟨resolved, instant, rfl, rfl⟩

/-- A component that is not smart is called once, and the answer is put on record. -/
theorem yields_stopNow {members : List String} {name : String} {component : Component}
    {stopping result : Stopping} {record : List Exchange} {resolved : List Resolution} {instant : Nat}
    (waits : component.isSmart = false)
    (yields : (stopNow name component stopping).Yields record result) :
    ∃ turn : Turn, turn.name = name ∧ turn.component = component ∧
      TurnSpan members (⟨.isRunning component, true, resolved, instant⟩ :: record) stopping result
        turn := by
  obtain ⟨_, _, _, rfl, asks⟩ := yields_note_bind.mp yields
  obtain ⟨reason, _, _, _, rfl, collects⟩ := yields_ask_bind.mp asks
  obtain ⟨_, middle, last, collected, ends, rfl⟩ := yields_bind.mp collects
  obtain ⟨arrivals, _, _, rfl, rfl⟩ := yields_collect collected
  have noted : ∃ notice resolved instant, last = [⟨.note notice, (), resolved, instant⟩] ∧
      result = { stopping with
        barrier := { stopping.barrier with
          list := arrivals.foldl WaitingList.resolve stopping.barrier.list }
        report := stopping.report.noteTurn
          ⟨name, component, true, none, [.stop component reason]⟩ } := by
    cases reason with
    | none =>
      obtain ⟨_, _, _, rfl, rfl, rfl⟩ := yields_note_bind.mp ends
      exact ⟨_, _, _, rfl, rfl⟩
    | some reason =>
      obtain ⟨_, _, rfl, rfl⟩ := yields_fail ends
      exact ⟨_, _, _, rfl, rfl⟩
  obtain ⟨notice, _, _, rfl, rfl⟩ := noted
  refine ⟨⟨name, component, true, none, [.stop component reason]⟩, rfl, rfl, ?_⟩
  constructor
  · intro entered turns strays
    simp [Docket.readAll, Docket.read, Docket.beginTurn, Docket.noteCall, Call.component]
  · rfl
  · exact .stopping name component reason waits
  · rfl
  · simp [WaitingList.readAll, WaitingList.read, Exchange.heard, Exchange.issued]
  · simp [issuedIn, Exchange.issued, Turn.signals, waits]
  · rfl
  · simp [Turn.isSpared, Turn.isExtra, Turn.signals, waits]

/-- A smart component is given a signal, awaited in addition if the component is no member. -/
theorem yields_requestStop {members : List String} {name : String} {component : Component}
    {stopping result : Stopping} {record : List Exchange} {resolved : List Resolution} {instant : Nat}
    (smart : component.isSmart = true)
    (yields : (requestStop (!members.contains name) name component stopping).Yields record result) :
    ∃ turn : Turn, turn.name = name ∧ turn.component = component ∧
      TurnSpan members (⟨.isRunning component, true, resolved, instant⟩ :: record) stopping result
        turn := by
  obtain ⟨_, _, _, rfl, asks⟩ := yields_note_bind.mp yields
  obtain ⟨barrier, same⟩ : ∃ barrier, barrier =
      (if !members.contains name then stopping.barrier.extend else stopping.barrier) := ⟨_, rfl⟩
  have mark : barrier.mark = stopping.barrier.mark := by
    rw [same]
    split <;> rfl
  have list : barrier.list = stopping.barrier.list := by
    rw [same]
    split <;> rfl
  have count : stopping.barrier.remaining + (!members.contains name).toNat < 0x10000000000000000 →
      barrier.remaining = stopping.barrier.remaining + (!members.contains name).toNat := by
    rw [same]
    cases members.contains name with
    | true => exact fun _ => rfl
    | false => exact fun small => Nat.mod_eq_of_lt small
  rw [← same] at asks
  obtain ⟨reason, _, _, _, rfl, collects⟩ := yields_ask_bind.mp asks
  obtain ⟨_, middle, last, collected, ends, rfl⟩ := yields_bind.mp collects
  obtain ⟨arrivals, _, _, rfl, rfl⟩ := yields_collect collected
  have noted : (∀ docket : Docket, docket.readAll last = docket) ∧
      (∀ list : WaitingList, list.readAll stopping.barrier.mark last = list) ∧
      issuedIn stopping.barrier.mark last = [] ∧
      result = { stopping with
        barrier := { barrier with
          list := arrivals.foldl WaitingList.resolve (barrier.list.enter name) }
        report := stopping.report.noteTurn
          ⟨name, component, true, none, [.stopAsync component (barrier.signal name) reason]⟩ } := by
    cases reason with
    | none =>
      obtain ⟨rfl, rfl⟩ := ends
      exact ⟨fun _ => rfl, fun _ => rfl, rfl, rfl⟩
    | some reason =>
      obtain ⟨_, _, rfl, rfl⟩ := yields_fail ends
      exact ⟨fun _ => rfl, fun _ => rfl, rfl, rfl⟩
  obtain ⟨unread, unlisted, unissued, rfl⟩ := noted
  refine ⟨⟨name, component, true, none, [.stopAsync component (barrier.signal name) reason]⟩, rfl,
    rfl, ?_⟩
  constructor
  · intro entered turns strays
    rw [← List.cons_append, ← List.cons_append, ← List.cons_append, Docket.readAll_append, unread]
    simp [Docket.readAll, Docket.read, Docket.beginTurn, Docket.noteCall, Call.component]
  · rfl
  · rw [← mark]
    exact .signalling name component reason smart
  · exact mark
  · rw [← List.cons_append, ← List.cons_append, ← List.cons_append, WaitingList.readAll_append,
      unlisted]
    simp [WaitingList.readAll, WaitingList.read, Exchange.heard, Exchange.issued, Barrier.signal,
      Barrier.issue, mark, list]
  · rw [← List.cons_append, ← List.cons_append, ← List.cons_append, issuedIn_append, unissued]
    simp [issuedIn, Exchange.issued, Turn.signals, smart, Barrier.signal, mark]
  · rfl
  · intro _ small
    simp only [Turn.isSpared, Turn.isExtra, Turn.signals, smart, Bool.true_and, Bool.not_true,
      Bool.false_and, Bool.toNat_false, Nat.add_zero] at small ⊢
    exact count small

/-- The turn of a component is one of three kinds, and does what it tells. -/
theorem yields_turn {members : List String} {name : String} {component : Component}
    {stopping result : Stopping} {record : List Exchange}
    (yields : (turn members name component stopping).Yields record result) :
    ∃ turn : Turn, turn.name = name ∧ turn.component = component ∧
      TurnSpan members record stopping result turn := by
  obtain ⟨ran, resolved, instant, rest, rfl, answered⟩ := yields_ask_bind.mp yields
  cases ran with
  | true =>
    cases smart : component.isSmart with
    | true =>
      rw [if_pos rfl, if_pos smart] at answered
      exact yields_requestStop smart answered
    | false =>
      rw [if_pos rfl, smart] at answered
      exact yields_stopNow smart answered
  | false =>
    rw [if_neg Bool.false_ne_true] at answered
    have idle : rest = [] ∧ result = { stopping with
        barrier := { stopping.barrier with
          remaining := stopping.barrier.remaining -
            (component.isSmart && members.contains name).toNat } } := by
      cases smart : component.isSmart <;> cases member : members.contains name <;>
        (rw [smart, member] at answered; exact answered)
    obtain ⟨rfl, rfl⟩ := idle
    refine ⟨⟨name, component, false, none, []⟩, rfl, rfl, ?_⟩
    constructor
    · intro entered turns strays
      rfl
    · rfl
    · exact .idle name component
    · rfl
    · rfl
    · simp [issuedIn, Exchange.issued, Turn.signals]
    · rfl
    · intro enough _
      simp only [Turn.isSpared, Turn.isExtra, Turn.signals, Bool.not_false, Bool.and_true,
        Bool.and_false, Bool.false_and, Bool.toNat_false, Nat.add_zero] at enough ⊢
      exact Nat.sub_add_cancel enough

end Stopping

/-! ### Spans -/

/-- What a stretch of a traversal does. Its turns are of distinct names drawn from the working set;
skipped are members whose turn came before the group began. -/
structure StopSpan (members : List String) (record : List Exchange) (before after : Stopping)
    (turns : List Turn) (skipped : Nat) : Prop where
  reads : ∀ docket : Docket,
    docket.readAll record = { docket with turns := turns.reverse ++ docket.turns }
  left : after.left = before.left.without (turns.map (·.name))
  once : (turns.map (·.name)).Nodup
  drawn : ∀ turn ∈ turns, before.left.get? turn.name = some turn.component
  kinds : ∀ turn ∈ turns, StopTurn before.barrier.mark turn
  mark : after.barrier.mark = before.barrier.mark
  list : after.barrier.list = before.barrier.list.readAll before.barrier.mark record
  issued : issuedIn before.barrier.mark record = (turns.filter Turn.signals).map (·.name)
  report : after.report = turns.foldl StopReport.noteTurn before.report
  count : turns.countP (·.isSpared members) + skipped ≤ before.barrier.remaining →
    before.barrier.remaining + turns.countP (·.isExtra members) < 0x10000000000000000 →
    after.barrier.remaining + (turns.countP (·.isSpared members) + skipped) =
      before.barrier.remaining + turns.countP (·.isExtra members)

namespace StopSpan

variable {members : List String} {record first last : List Exchange}
  {before middle after : Stopping} {turns others : List Turn} {skipped more : Nat}

theorem refl (members : List String) (stopping : Stopping) :
    StopSpan members [] stopping stopping [] 0 where
  reads := fun _ => rfl
  left := (WorkingSet.without_nil _).symm
  once := List.nodup_nil
  drawn := fun _ there => absurd there List.not_mem_nil
  kinds := fun _ there => absurd there List.not_mem_nil
  mark := rfl
  list := rfl
  issued := rfl
  report := rfl
  count := fun _ _ => rfl

/-- Two stretches in a row are one. -/
theorem trans (head : StopSpan members first before middle turns skipped)
    (tail : StopSpan members last middle after others more) :
    StopSpan members (first ++ last) before after (turns ++ others) (skipped + more) where
  reads := fun docket => by
    rw [Docket.readAll_append, head.reads, tail.reads, List.reverse_append, List.append_assoc]
  left := by rw [tail.left, head.left, WorkingSet.without_without, List.map_append]
  once := by
    rw [List.map_append]
    refine List.nodup_append.mpr ⟨head.once, tail.once, ?_⟩
    rintro name early other late rfl
    obtain ⟨turn, there, rfl⟩ := List.mem_map.mp late
    have found := tail.drawn turn there
    rw [head.left] at found
    exact (WorkingSet.get?_without found).1 early
  drawn := by
    intro turn there
    rcases List.mem_append.mp there with there | there
    · exact head.drawn turn there
    · have found := tail.drawn turn there
      rw [head.left] at found
      exact (WorkingSet.get?_without found).2
  kinds := by
    intro turn there
    rcases List.mem_append.mp there with there | there
    · exact head.kinds turn there
    · exact head.mark ▸ tail.kinds turn there
  mark := tail.mark.trans head.mark
  list := by rw [tail.list, head.list, head.mark, WaitingList.readAll_append]
  issued := by
    rw [issuedIn_append, head.issued, ← head.mark, tail.issued, List.filter_append, List.map_append]
  report := by rw [tail.report, head.report, List.foldl_append]
  count := by
    intro enough small
    rw [List.countP_append] at enough small
    have earlier := head.count (by omega) (by omega)
    have later := tail.count (by omega) (by omega)
    rw [List.countP_append, List.countP_append]
    omega

/-- The stretch from taking a name out of the working set to the end of its turn. -/
theorem close {turn : Turn} {dependents : List String} {resolved : List Resolution} {instant : Nat}
    (drawn : before.left.get? turn.name = some turn.component)
    (below : StopSpan members first { before with left := before.left.erase turn.name } middle turns
      skipped)
    (own : TurnSpan members last middle after turn) :
    StopSpan members (⟨.dependents turn.name, dependents, resolved, instant⟩ :: (first ++ last))
      before after (turns ++ [turn]) skipped where
  reads := fun docket => by
    rw [Docket.readAll_cons, Docket.readAll_append, below.reads]
    refine (own.reads _ _ _).trans ?_
    rw [List.reverse_append]
    rfl
  left := by
    rw [own.left, below.left, WorkingSet.erase_eq_without, WorkingSet.without_without]
    refine WorkingSet.without_congr _ fun name => ?_
    rw [List.map_append, List.mem_append, List.mem_append, or_comm]
    rfl
  once := by
    rw [List.map_append]
    refine List.nodup_append.mpr ⟨below.once, List.nodup_singleton _, ?_⟩
    rintro name early other late rfl
    obtain ⟨earlier, there, rfl⟩ := List.mem_map.mp early
    have found := below.drawn earlier there
    rw [List.mem_singleton.mp late, WorkingSet.get?_erase_self] at found
    cases found
  drawn := by
    intro other there
    rcases List.mem_append.mp there with there | there
    · have found := below.drawn other there
      rw [WorkingSet.erase_eq_without] at found
      exact (WorkingSet.get?_without found).2
    · rw [List.mem_singleton.mp there]
      exact drawn
  kinds := by
    intro other there
    rcases List.mem_append.mp there with there | there
    · exact below.kinds other there
    · rw [List.mem_singleton.mp there]
      exact below.mark ▸ own.kind
  mark := own.mark.trans below.mark
  list := by
    rw [own.list, below.list, below.mark, ← WaitingList.readAll_append]
    rfl
  issued := by
    have later := own.issued
    rw [below.mark] at later
    show issuedIn before.barrier.mark (first ++ last) = _
    rw [issuedIn_append, List.filter_append, List.map_append]
    refine congr (congrArg _ below.issued) (later.trans ?_)
    cases signals : turn.signals <;> simp [signals]
  report := by
    rw [own.report, below.report, List.foldl_append]
    rfl
  count := by
    intro enough small
    rw [List.countP_append] at enough small
    have spared : [turn].countP (·.isSpared members) = (turn.isSpared members).toNat := by
      cases spared : turn.isSpared members <;> simp [spared]
    have extra : [turn].countP (·.isExtra members) = (turn.isExtra members).toNat := by
      cases extra : turn.isExtra members <;> simp [extra]
    rw [spared] at enough
    rw [extra] at small
    have earlier := below.count (by dsimp only; omega) (by dsimp only; omega)
    dsimp only at earlier
    have later := own.count (by omega) (by omega)
    rw [List.countP_append, List.countP_append, spared, extra]
    omega

/-- A loop of spans is a span, which skips as many as its rounds do. Names that a round would not
leave had their turn in one of the rounds. -/
theorem foldlM {Entry : Type} {step : Stopping → Entry → Pass Stopping} (cost : Entry → Nat)
    (drains : Entry → String → Prop) {entries : List Entry}
    (each : ∀ {stopping result record} (entry : Entry), (step stopping entry).Yields record result →
      ∃ turns, StopSpan members record stopping result turns (cost entry) ∧
        ∀ name, drains entry name → name ∈ stopping.left.names → name ∈ turns.map (·.name))
    (yields : (entries.foldlM step before).Yields record after) :
    ∃ turns, StopSpan members record before after turns (entries.map cost).sum ∧
      ∀ entry ∈ entries, ∀ name, drains entry name → name ∈ before.left.names →
        name ∈ turns.map (·.name) := by
  induction entries generalizing before record with
  | nil =>
    obtain ⟨rfl, rfl⟩ := yields
    exact ⟨[], refl members _, fun entry there => absurd there List.not_mem_nil⟩
  | cons entry entries inductionHypothesis =>
    obtain ⟨first, middle, last, round, rounds, rfl⟩ := yields_foldlM_cons.mp yields
    obtain ⟨turns, head, drained⟩ := each entry round
    obtain ⟨others, tail, drainedLater⟩ := inductionHypothesis rounds
    refine ⟨turns ++ others, head.trans tail, fun other there name drains present => ?_⟩
    rw [List.map_append, List.mem_append]
    by_cases early : name ∈ turns.map (·.name)
    · exact Or.inl early
    · rcases List.mem_cons.mp there with rfl | there
      · exact Or.inl (drained name drains present)
      · have kept : name ∈ middle.left.names := by
          rw [head.left]
          exact (WorkingSet.mem_names_without _ _ _).mpr ⟨present, early⟩
        exact Or.inr (drainedLater other there name drains kept)

/-- Going down from a name is a span that skips nobody. A name that is left has its turn in it. -/
theorem visit {depth : Nat} {name : String}
    (yields : (Stopping.visit members depth before name).Yields record after) :
    ∃ turns, StopSpan members record before after turns 0 ∧
      (0 < depth → name ∈ before.left.names → name ∈ turns.map (·.name)) := by
  induction depth generalizing before after record name with
  | zero =>
    obtain ⟨rfl, rfl⟩ := yields
    exact ⟨[], refl members _, fun positive => absurd positive (Nat.lt_irrefl 0)⟩
  | succ depth inductionHypothesis =>
    cases found : before.left.get? name with
    | none =>
      rw [Stopping.visit, found] at yields
      obtain ⟨rfl, rfl⟩ := yields
      refine ⟨[], refl members _, fun _ present => ?_⟩
      exact absurd present ((WorkingSet.get?_eq_none_iff _ _).mp found)
    | some component =>
      rw [Stopping.visit, found] at yields
      obtain ⟨dependents, resolved, instant, rest, rfl, answered⟩ := yields_ask_bind.mp yields
      obtain ⟨first, middle, last, descended, turned, rfl⟩ := yields_bind.mp answered
      obtain ⟨turns, below, -⟩ := foldlM (fun _ => 0) (fun _ _ => False)
        (fun next goes => by
          obtain ⟨turns, span, -⟩ := inductionHypothesis goes
          exact ⟨turns, span, fun _ drains => drains.elim⟩) descended
      have free : (dependents.map fun _ => 0).sum = 0 := by simp
      rw [free] at below
      obtain ⟨turn, rfl, rfl, own⟩ := Stopping.yields_turn turned
      refine ⟨turns ++ [turn], close found below own, fun _ _ => ?_⟩
      rw [List.map_append]
      exact List.mem_append_right _ (List.mem_singleton.mpr rfl)

end StopSpan

/-! ### The traversal of a group -/

/-- A member of a group that was to be awaited, but whose turn came before the group began. -/
def Member.isSkipped (left : WorkingSet) (member : Member) : Bool :=
  member.component.isSmart && !left.contains member.name

theorem Group.span_reach {group : Group} {left : WorkingSet} {before after : Stopping}
    {member : Member} {record : List Exchange}
    (yields : (group.reach left before member).Yields record after) :
    ∃ turns, StopSpan (group.members.map (·.name)) record before after turns
        (member.isSkipped left).toNat ∧
      ∀ name, name = member.name ∧ name ∈ left.names → name ∈ before.left.names →
        name ∈ turns.map (·.name) := by
  unfold Group.reach at yields
  cases present : left.contains member.name with
  | true =>
    rw [if_pos present] at yields
    obtain ⟨turns, span, drained⟩ := StopSpan.visit yields
    have unskipped : (member.isSkipped left).toNat = 0 := by
      simp [Member.isSkipped, present]
    rw [unskipped]
    refine ⟨turns, span, ?_⟩
    rintro name ⟨rfl, -⟩ there
    refine drained ?_ there
    obtain ⟨found, inside, -⟩ := List.mem_map.mp there
    exact List.length_pos_of_mem inside
  | false =>
    rw [present, if_neg Bool.false_ne_true] at yields
    have absent : member.name ∉ left.names := fun there => by
      rw [(left.contains_iff member.name).mpr there] at present
      cases present
    refine ⟨[], ?_, fun name wanted => absurd (wanted.1 ▸ wanted.2) absent⟩
    cases smart : member.component.isSmart with
    | false =>
      rw [smart] at yields
      obtain ⟨rfl, rfl⟩ := yields
      have unskipped : (member.isSkipped left).toNat = 0 := by
        simp [Member.isSkipped, smart]
      rw [unskipped]
      exact .refl _ _
    | true =>
      rw [if_pos smart] at yields
      obtain ⟨rfl, rfl⟩ := yields
      have skips : (member.isSkipped left).toNat = 1 := by
        simp [Member.isSkipped, smart, present]
      rw [skips]
      refine { StopSpan.refl (group.members.map (·.name)) before with count := fun enough _ => ?_ }
      exact Nat.sub_add_cancel enough

/-- The traversal of a group is a span. It skips the smart members that were not left when the group
began; every other member has its turn in it. -/
theorem Group.span_traverse {group : Group} {mark : Nat} {left : WorkingSet} {report : StopReport}
    {after : Stopping} {record : List Exchange}
    (yields : (group.traverse mark left report).Yields record after) :
    ∃ turns, StopSpan (group.members.map (·.name)) record
        { left, barrier := { mark, remaining := group.smartCount }, report } after turns
        (group.members.countP (·.isSkipped left)) ∧
      ∀ member ∈ group.members, member.name ∈ left.names → member.name ∈ turns.map (·.name) := by
  obtain ⟨turns, span, drained⟩ := StopSpan.foldlM (fun member => (member.isSkipped left).toNat)
    (fun member name => name = member.name ∧ name ∈ left.names)
    (fun member reached => Group.span_reach reached) yields
  have total : (group.members.map fun member => (member.isSkipped left).toNat).sum =
      group.members.countP (·.isSkipped left) := by
    induction group.members with
    | nil => rfl
    | cons member members inductionHypothesis =>
      rw [List.map_cons, List.sum_cons, inductionHypothesis, List.countP_cons, Nat.add_comm]
      cases member.isSkipped left <;> rfl
  rw [total] at span
  exact ⟨turns, span, fun member there present =>
    drained member there member.name ⟨rfl, present⟩ present⟩

end PhasedLifecycle
