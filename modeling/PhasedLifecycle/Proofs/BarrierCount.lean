/-
This file accounts for the count of a barrier. It begins with the smart members of the group, goes
down for each of them that needs no wait, and up for each signal given out to a component of another
phase. When the traversal ends, what is left are the signals given out in it, and one more for each
time that a name is listed again.

So if no name is listed twice, a wait is neither too long nor too short: it ends as soon as none of
the signals is open any more, or else at its deadline.
-/

import Mathlib.Algebra.BigOperators.Group.List.Lemmas
import Mathlib.Data.List.Dedup
import PhasedLifecycle.Proofs.Habits
import PhasedLifecycle.Proofs.StopRounds

namespace PhasedLifecycle

/-! ### Members and turns -/

theorem countP_split {Entry : Type} (marked parting : Entry → Bool) (entries : List Entry) :
    entries.countP marked = entries.countP (fun entry => marked entry && parting entry) +
      entries.countP (fun entry => marked entry && !parting entry) := by
  induction entries with
  | nil => rfl
  | cons entry entries inductionHypothesis =>
    rw [List.countP_cons, List.countP_cons, List.countP_cons, inductionHypothesis]
    cases marked entry <;> cases parting entry <;> simp <;> omega

/-- The smart members of a group whose turn is still to come. -/
def Group.awaited (group : Group) (left : WorkingSet) : List Member :=
  group.members.filter fun member => member.component.isSmart && left.contains member.name

/-- How often the names of awaited members are listed, beyond once for each name. -/
def Group.surplus (group : Group) (left : WorkingSet) : Nat :=
  ((((group.awaited left).map (·.name)).dedup).map fun name =>
    (group.members.map (·.name)).count name - 1).sum

/-- Awaited members are counted once for each name, and then once for each time more that the name is
listed, if a name always stands for the same component. -/
theorem Group.length_awaited {group : Group} {left : WorkingSet}
    (same : ∀ member ∈ group.members, ∀ other ∈ group.members, member.name = other.name →
      member.component = other.component) :
    (group.awaited left).length =
      group.surplus left + ((group.awaited left).map (·.name)).dedup.length := by
  have counts : ∀ name ∈ ((group.awaited left).map (·.name)).dedup,
      (group.members.map (·.name)).count name = ((group.awaited left).map (·.name)).count name := by
    intro name there
    obtain ⟨member, awaited, rfl⟩ := List.mem_map.mp (List.mem_dedup.mp there)
    obtain ⟨inside, isAwaited⟩ := List.mem_filter.mp awaited
    rw [List.count_eq_countP, List.count_eq_countP, List.countP_map, List.countP_map, Group.awaited,
      List.countP_filter]
    refine List.countP_congr fun other otherInside => ?_
    simp only [Function.comp_apply, beq_iff_eq, Bool.and_eq_true]
    refine ⟨fun equal => ⟨equal, ?_⟩, fun both => both.1⟩
    rw [equal, same other otherInside member inside equal]
    simpa using isAwaited
  have sums : ∀ names : List String,
      (∀ name ∈ names, 1 ≤ ((group.awaited left).map (·.name)).count name) →
      (names.map fun name => ((group.awaited left).map (·.name)).count name).sum =
        (names.map fun name => ((group.awaited left).map (·.name)).count name - 1).sum +
          names.length := by
    intro names
    induction names with
    | nil => exact fun _ => rfl
    | cons name names inductionHypothesis =>
      intro positive
      have first := positive name List.mem_cons_self
      have others := inductionHypothesis fun other there =>
        positive other (List.mem_cons_of_mem _ there)
      simp only [List.map_cons, List.sum_cons, List.length_cons]
      omega
  have total := List.sum_map_count_dedup_eq_length ((group.awaited left).map (·.name))
  rw [List.length_map, sums _ fun name there =>
    List.count_pos_iff.mpr (List.mem_dedup.mp there)] at total
  have surplus : group.surplus left =
      (((group.awaited left).map (·.name)).dedup.map fun name =>
        ((group.awaited left).map (·.name)).count name - 1).sum :=
    congrArg List.sum (List.map_congr_left fun name there => by rw [counts name there])
  rw [← total, surplus]

/-- The smart members are those that are awaited and those that are skipped. -/
theorem Group.smartCount_eq (group : Group) (left : WorkingSet) :
    group.smartCount = (group.awaited left).length + group.members.countP (·.isSkipped left) := by
  rw [Group.smartCount, countP_split _ fun member => left.contains member.name, Group.awaited,
    List.countP_eq_length_filter]
  rfl

/-- In a span in which every member that is left has its turn, there is one turn of a smart member
for each awaited name. -/
theorem StopSpan.countP_smartMembers {group : Group} {record : List Exchange}
    {before after : Stopping} {turns : List Turn} {skipped : Nat}
    (span : StopSpan (group.members.map (·.name)) record before after turns skipped)
    (drained : ∀ member ∈ group.members, member.name ∈ before.left.names →
      member.name ∈ turns.map (·.name))
    (standing : ∀ member ∈ group.members, member.name ∈ before.left.names →
      before.left.get? member.name = some member.component) :
    (turns.countP fun turn => turn.component.isSmart &&
        (group.members.map (·.name)).contains turn.name) =
      ((group.awaited before.left).map (·.name)).dedup.length := by
  rw [List.countP_eq_length_filter, ← List.length_map (f := Turn.name)]
  refine List.Perm.length_eq ((List.perm_ext_iff_of_nodup ?_ (List.nodup_dedup _)).mpr ?_)
  · exact span.once.sublist (List.filter_sublist.map _)
  · intro name
    rw [List.mem_dedup]
    simp only [List.mem_map, List.mem_filter, Bool.and_eq_true, List.contains_iff_mem,
      Group.awaited, WorkingSet.contains_iff]
    constructor
    · rintro ⟨turn, ⟨there, smart, member, inside, same⟩, rfl⟩
      have drawn := span.drawn turn there
      have present : member.name ∈ before.left.names := by
        rw [same]
        exact WorkingSet.mem_names_of_get? drawn
      have stands := standing member inside present
      rw [same, drawn] at stands
      exact ⟨member, ⟨inside, Option.some.inj stands ▸ smart, present⟩, same⟩
    · rintro ⟨member, ⟨inside, smart, present⟩, rfl⟩
      obtain ⟨turn, there, same⟩ := List.mem_map.mp (drained member inside present)
      have drawn := span.drawn turn there
      rw [same, standing member inside present] at drawn
      exact ⟨turn, ⟨there, Option.some.inj drawn ▸ smart, member, inside, same.symm⟩, same⟩

/-- Among the turns of smart components, those of members are of spared ones or give out a signal,
and those that give out a signal are of members or extra. -/
theorem countP_turns (members : List String) (turns : List Turn) :
    (turns.countP fun turn => turn.component.isSmart && members.contains turn.name) =
        (turns.countP fun turn => turn.signals && members.contains turn.name) +
          turns.countP (·.isSpared members) ∧
      turns.countP Turn.signals =
        (turns.countP fun turn => turn.signals && members.contains turn.name) +
          turns.countP (·.isExtra members) := by
  refine ⟨?_, countP_split _ _ _⟩
  rw [countP_split _ (·.ran)]
  congr 1
  · refine List.countP_congr fun turn _ => ?_
    simp only [Turn.signals, Bool.and_eq_true]
    exact and_right_comm
  · refine List.countP_congr fun turn _ => ?_
    simp only [Turn.isSpared, Bool.and_eq_true]
    exact and_right_comm

/-! ### The count at the end of a traversal -/

/-- No count down of a traversal is lost at zero: after it, the count is the number of smart members
and of extensions, less the number of counts down. -/
def StopRound.LosesNone (round : StopRound) : Prop :=
  round.stopping.barrier.remaining +
      (round.turns.countP (·.isSpared (round.sorted.members.map (·.name))) +
        round.sorted.members.countP (·.isSkipped round.left)) =
    round.sorted.smartCount + round.turns.countP (·.isExtra (round.sorted.members.map (·.name)))

namespace StopHistory

variable {snapshot : List Member} {timeout : Nat} (history : StopHistory snapshot timeout)
  {round : StopRound}

/-- Smart members and components of other phases together are not more than the snapshot lists. -/
theorem awaited_le (inRounds : round ∈ history.rounds) :
    round.sorted.smartCount + round.turns.countP (·.isExtra (round.sorted.members.map (·.name))) ≤
      snapshot.length := by
  have runs := history.runs_of_mem inRounds
  obtain ⟨span, -⟩ := runs.span
  have members := runs.rearranged.members
  obtain ⟨others, all⟩ := history.members_sublist inRounds
  obtain ⟨earlier, later, place⟩ := List.append_of_mem inRounds
  have foreign : (round.turns.filter (·.isExtra (round.sorted.members.map (·.name)))).map (·.name) ⊆
      others.map (·.name) := by
    intro name there
    obtain ⟨turn, extra, rfl⟩ := List.mem_map.mp there
    obtain ⟨inTurns, extra⟩ := List.mem_filter.mp extra
    have present := WorkingSet.mem_names_of_get? (span.drawn turn inTurns)
    dsimp only at present
    rw [history.left_eq place] at present
    have listed := (WorkingSet.mem_names_ofList snapshot turn.name).mp
      ((WorkingSet.mem_names_without _ _ _).mp present).1
    have listed : turn.name ∈ (snapshot.map (standing snapshot)).map (·.name) := by
      rw [List.map_map]
      exact listed
    rw [← (all.map Member.name).mem_iff, List.map_append, List.mem_append] at listed
    refine listed.resolve_left fun member => ?_
    simp only [Turn.isExtra, Bool.and_eq_true, Bool.not_eq_true', List.contains_eq_mem,
      decide_eq_false_iff_not] at extra
    exact extra.2 ((members.map _).mem_iff.mpr member)
  have extraBound := (List.subperm_of_subset (span.once.sublist (List.filter_sublist.map _))
    foreign).length_le
  rw [List.length_map, List.length_map, ← List.countP_eq_length_filter] at extraBound
  have smartBound : round.sorted.smartCount ≤ round.sorted.members.length := List.countP_le_length
  have lengths := all.length_eq
  rw [List.length_append, List.length_map, ← members.length_eq] at lengths
  omega

theorem remaining_eq (few : snapshot.length < 0x10000000000000000)
    (inRounds : round ∈ history.rounds) :
    round.LosesNone ∧ round.stopping.barrier.remaining =
      (issuedIn round.mark round.traversal).length + round.sorted.surplus round.left := by
  have runs := history.runs_of_mem inRounds
  obtain ⟨span, drained⟩ := runs.span
  have members := runs.rearranged.members
  have standing : ∀ member ∈ round.sorted.members, member.name ∈ round.left.names →
      round.left.get? member.name = some member.component := fun member there =>
    history.get?_left_of_member inRounds (members.mem_iff.mp there)
  have same : ∀ member ∈ round.sorted.members, ∀ other ∈ round.sorted.members,
      member.name = other.name → member.component = other.component := by
    intro member there other otherThere equal
    have stands := history.get?_of_member inRounds (members.mem_iff.mp there)
    rw [equal, history.get?_of_member inRounds (members.mem_iff.mp otherThere)] at stands
    exact (Option.some.inj stands).symm
  have turnsOfMembers := span.countP_smartMembers drained standing
  have awaited : (round.sorted.awaited round.left).length = round.sorted.surplus round.left +
      ((round.sorted.awaited round.left).map (·.name)).dedup.length := Group.length_awaited same
  have smart := round.sorted.smartCount_eq round.left
  have bound := history.awaited_le inRounds
  obtain ⟨spared, extra⟩ := countP_turns (round.sorted.members.map (·.name)) round.turns
  have signals := congrArg List.length span.issued
  rw [List.length_map, ← List.countP_eq_length_filter] at signals
  dsimp only at signals turnsOfMembers
  have dedup := (List.dedup_sublist ((round.sorted.awaited round.left).map (·.name))).length_le
  rw [List.length_map] at dedup
  have count := span.count (by dsimp only; omega) (by dsimp only; omega)
  dsimp only at count
  exact ⟨count, by omega⟩

end StopHistory

/-! ### The end of a wait -/

/-- A wait, from one moment to another, is as long as the signals of its barrier make it: it ends with
the last of the resolutions, at once if no signal is open, or else at the deadline. -/
def EndsOnTime (mark timeout : Nat) (start : Surroundings) (waiting : List Exchange) : Prop :=
  ((start.afterAll waiting).openFor mark = [] ∧
      (start.afterAll waiting).clock ≤ start.clock + timeout ∧
      IsLatest (start.clock :: (resolvedIn mark waiting).map (·.instant))
        (start.afterAll waiting).clock) ∨
    ((start.afterAll waiting).openFor mark ≠ [] ∧
      (start.afterAll waiting).clock = start.clock + timeout)

/-- What a wait makes of the signals of its barrier if the count is that of the signals given out. -/
structure StopRound.Settles (round : StopRound) (start : Surroundings) : Prop where
  conserved : (issuedIn round.mark round.traversal).Perm
    ((resolvedIn round.mark (round.traversal ++ round.waiting)).map (·.signal.name) ++
      (start.afterAll round.waiting).openFor round.mark)
  heard : (start.afterAll round.waiting).mailFor round.mark = []
  completed : round.outcome.completed = endedIn .completed
    ((resolvedIn round.mark (round.traversal ++ round.waiting)).map Resolution.arrival)
  abandoned : round.outcome.abandoned = endedIn .abandoned
    ((resolvedIn round.mark (round.traversal ++ round.waiting)).map Resolution.arrival)
  pending : round.outcome.pending.Perm ((start.afterAll round.waiting).openFor round.mark)
  timedOut : round.outcome.timedOut = true ↔
    (start.afterAll round.waiting).openFor round.mark ≠ []
  onTime : EndsOnTime round.mark round.sorted.timeout start round.waiting

/-- The wait of a round begins where the traversal ended, and what it hears is what arrived in it. -/
structure StopRound.Waits (round : StopRound) (start : Surroundings) (rest : List Exchange)
    (arrivals : List Arrival) (expired : Bool) : Prop where
  awaits : Awaits round.mark (start.clock + round.sorted.timeout) rest arrivals expired
  ends : Wait.Ends { barrier := round.stopping.barrier } arrivals expired round.outcome
  goesOn : start.Follows rest
  finish : start.afterAll round.waiting = start.afterAll rest
  heard : heardIn round.mark round.waiting = arrivals
  issued : issuedIn round.mark round.waiting = []
  resolved : resolvedIn round.mark round.waiting = resolvedIn round.mark rest
  read : ∀ list : WaitingList,
    list.readAll round.mark round.waiting = arrivals.foldl WaitingList.resolve list

theorem StopRound.Runs.waits {round : StopRound} (runs : round.Runs) {start : Surroundings}
    (follows : start.Follows round.waiting) :
    ∃ rest arrivals expired, round.Waits start rest arrivals expired := by
  obtain ⟨span, -⟩ := runs.span
  obtain ⟨instant, rest, arrivals, expired, waiting, awaits, ends, goesOn, finish⟩ :=
    Barrier.yields_await_of_follows runs.awaited follows
  have mark : round.stopping.barrier.mark = round.mark := span.mark
  rw [mark] at awaits
  refine ⟨rest, arrivals, expired, awaits, ends, goesOn, finish, ?_, ?_, ?_, fun list => ?_⟩
  · rw [waiting]
    exact awaits.heardIn_eq
  · rw [waiting]
    exact awaits.issuedIn_eq round.mark
  · rw [waiting]
    rfl
  · rw [waiting]
    exact awaits.readAll_eq list

/-- What became of the signals of a round by the end of its wait: what was heard of and what is still
news make up what was resolved, this and what is open make up what was given out, and the list of the
barrier has on it what is open and what is still news. -/
structure StopRound.Ledger (round : StopRound) (start : Surroundings) (arrivals : List Arrival) :
    Prop where
  mail : (resolvedIn round.mark (round.traversal ++ round.waiting)).map Resolution.arrival =
    round.stopping.barrier.list.arrived ++ arrivals ++
      ((start.afterAll round.waiting).mailFor round.mark).map Resolution.arrival
  opens : (issuedIn round.mark round.traversal).Perm
    ((resolvedIn round.mark (round.traversal ++ round.waiting)).map (·.signal.name) ++
      (start.afterAll round.waiting).openFor round.mark)
  keeps : (arrivals.foldl WaitingList.resolve round.stopping.barrier.list).Keeps round.mark
    (start.afterAll round.waiting)

theorem StopRound.Runs.ledger {round : StopRound} (runs : round.Runs) {opened : Surroundings}
    {rest : List Exchange} {arrivals : List Arrival} {expired : Bool}
    (unopened : opened.openFor round.mark = []) (unheard : opened.mailFor round.mark = [])
    (follows : opened.Follows (round.traversal ++ round.waiting))
    (waits : round.Waits (opened.afterAll round.traversal) rest arrivals expired) :
    round.Ledger (opened.afterAll round.traversal) arrivals := by
  obtain ⟨span, -⟩ := runs.span
  have list : round.stopping.barrier.list = ({} : WaitingList).readAll round.mark round.traversal :=
    span.list
  have arrived : round.stopping.barrier.list.arrived = heardIn round.mark round.traversal := by
    rw [list, WaitingList.arrived_readAll]
    rfl
  constructor
  · have mail := Surroundings.following_mail round.mark follows
    rw [unheard, List.nil_append, heardIn_append, waits.heard, Surroundings.afterAll_append,
      ← arrived] at mail
    exact mail
  · have opens := Surroundings.following_open round.mark follows
    rw [unopened, List.nil_append, issuedIn_append, waits.issued, List.append_nil,
      Surroundings.afterAll_append] at opens
    exact opens
  · have once : (issuedIn round.mark (round.traversal ++ round.waiting)).Nodup := by
      rw [issuedIn_append, waits.issued, List.append_nil]
      exact span.issued ▸ span.once.sublist (List.filter_sublist.map _)
    have begun : ({} : WaitingList).Keeps round.mark opened := by
      rw [WaitingList.Keeps, unopened, unheard]
      exact List.Perm.nil
    have keeps := begun.readAll follows once
    rw [WaitingList.readAll_append, ← list, waits.read, Surroundings.afterAll_append] at keeps
    exact keeps

/-- If the count is that of the signals given out, a wait leaves no news unheard, and it ends at the
deadline just if a signal is open. -/
theorem StopRound.Waits.drains {round : StopRound} {start : Surroundings} {rest : List Exchange}
    {arrivals : List Arrival} {expired : Bool} (waits : round.Waits start rest arrivals expired)
    (ledger : round.Ledger start arrivals)
    (balanced : round.stopping.barrier.remaining = (issuedIn round.mark round.traversal).length) :
    (start.afterAll round.waiting).mailFor round.mark = [] ∧
      (expired = true ↔ (start.afterAll round.waiting).openFor round.mark ≠ []) := by
  have mailLength := congrArg List.length ledger.mail
  have opensLength := ledger.opens.length_eq
  simp only [List.length_map, List.length_append] at mailLength opensLength
  rw [← List.length_pos_iff]
  cases expired with
  | true =>
    have late := (waits.awaits.clock_of_expired waits.goesOn (Nat.le_add_right _ _)).2 rfl
    have heard := late.2
    rw [← waits.finish] at heard
    have fewer := waits.ends.fewer rfl
    dsimp only at fewer
    rw [List.length_append] at fewer
    rw [heard, List.length_nil] at mailLength
    exact ⟨heard, fun _ => by omega, fun _ => rfl⟩
  | false =>
    have enough := waits.ends.enough rfl
    dsimp only at enough
    rw [List.length_append] at enough
    exact ⟨List.eq_nil_of_length_eq_zero (by omega), fun late => Bool.noConfusion late,
      fun _ => by omega⟩

/-- If the count is that of the signals given out, a wait settles them. -/
theorem StopRound.Runs.settles {round : StopRound} (runs : round.Runs) {opened : Surroundings}
    (balanced : round.stopping.barrier.remaining = (issuedIn round.mark round.traversal).length)
    (unopened : opened.openFor round.mark = []) (unheard : opened.mailFor round.mark = [])
    (follows : opened.Follows (round.traversal ++ round.waiting)) :
    round.Settles (opened.afterAll round.traversal) := by
  obtain ⟨traversing, waiting⟩ := Surroundings.follows_append.mp follows
  obtain ⟨rest, arrivals, expired, waits⟩ := runs.waits waiting
  have ledger := runs.ledger unopened unheard follows waits
  obtain ⟨heard, isOpen⟩ := waits.drains ledger balanced
  have all : (round.stopping.barrier.list.arrived ++ arrivals).take
      round.stopping.barrier.remaining =
        (resolvedIn round.mark (round.traversal ++ round.waiting)).map Resolution.arrival := by
    have mail := ledger.mail
    have opensLength := ledger.opens.length_eq
    rw [heard, List.map_nil, List.append_nil] at mail
    rw [List.length_append, List.length_map] at opensLength
    rw [← mail]
    exact List.take_of_length_le (by rw [List.length_map]; omega)
  refine ⟨ledger.opens, heard, ?_, ?_, ?_, ?_, ?_⟩
  · rw [waits.ends.completed, all]
    rfl
  · rw [waits.ends.abandoned, all]
    rfl
  · have keeps := ledger.keeps
    rw [WaitingList.Keeps, heard, List.map_nil, List.nil_append] at keeps
    rw [waits.ends.pending]
    exact (List.mergeSort_perm _ _).trans keeps
  · rw [waits.ends.timedOut]
    exact isOpen
  · obtain ⟨soon, late⟩ := waits.awaits.clock_of_expired waits.goesOn (Nat.le_add_right _ _)
    unfold EndsOnTime
    rw [waits.finish, waits.resolved, ← waits.finish]
    cases expired with
    | true => exact Or.inr ⟨isOpen.mp rfl, waits.finish ▸ (late rfl).1⟩
    | false =>
      have punctual : (opened.afterAll round.traversal).Punctual round.mark := by
        refine Surroundings.Punctual.afterAll (fun resolution there => ?_) traversing
        rw [unheard] at there
        exact absurd there List.not_mem_nil
      refine Or.inl ⟨?_, waits.finish ▸ soon,
        waits.finish ▸ waits.awaits.isLatest_of_early waits.goesOn punctual rfl⟩
      by_contra somethingOpen
      exact Bool.noConfusion (isOpen.mpr somethingOpen)

/-! ### Every round of a stop pass -/

namespace StopHistory

variable {snapshot : List Member} {timeout : Nat} (history : StopHistory snapshot timeout)
  {earlier later : List StopRound} {round : StopRound}

/-- The record of the pass up to a round. -/
def recordBefore (earlier : List StopRound) : List Exchange :=
  history.gathering ++ earlier.flatMap StopRound.record

theorem follows_round (place : history.rounds = earlier ++ round :: later)
    {surroundings : Surroundings} (follows : surroundings.Follows history.record) :
    (surroundings.afterAll (history.recordBefore earlier)).Follows round.opening ∧
      ((surroundings.afterAll (history.recordBefore earlier)).afterAll round.opening).Follows
        (round.traversal ++ round.waiting) := by
  have whole : history.record = history.recordBefore earlier ++ (round.opening ++
      ((round.traversal ++ round.waiting) ++ (round.closing ++ later.flatMap StopRound.record))) := by
    simp [record, recordBefore, place, StopRound.record]
  rw [whole] at follows
  obtain ⟨-, follows⟩ := Surroundings.follows_append.mp follows
  obtain ⟨opening, follows⟩ := Surroundings.follows_append.mp follows
  exact ⟨opening, (Surroundings.follows_append.mp follows).1⟩

theorem nodup_members (once : (snapshot.map (·.name)).Nodup) (inRounds : round ∈ history.rounds) :
    (round.sorted.members.map (·.name)).Nodup := by
  obtain ⟨others, all⟩ := history.members_sublist inRounds
  have names := all.map Member.name
  rw [List.map_append, List.map_map] at names
  have members := ((history.runs_of_mem inRounds).rearranged.members.map Member.name)
  exact members.nodup_iff.mpr ((names.nodup_iff.mpr once).sublist (List.sublist_append_left _ _))

/-- If no name is listed twice, a barrier awaits just the signals given out. -/
theorem remaining_eq_of_nodup (few : snapshot.length < 0x10000000000000000)
    (once : (snapshot.map (·.name)).Nodup) (inRounds : round ∈ history.rounds) :
    round.stopping.barrier.remaining = (issuedIn round.mark round.traversal).length := by
  have surplus : round.sorted.surplus round.left = 0 := by
    refine List.sum_eq_zero fun excess there => ?_
    obtain ⟨name, -, rfl⟩ := List.mem_map.mp there
    exact Nat.sub_eq_zero_of_le (List.nodup_iff_count_le_one.mp
      (history.nodup_members once inRounds) name)
  rw [(history.remaining_eq few inRounds).2, surplus, Nat.add_zero]

/-- If no name is listed twice, each wait of a stop pass settles the signals of its round. -/
theorem settles (few : snapshot.length < 0x10000000000000000)
    (once : (snapshot.map (·.name)).Nodup) (place : history.rounds = earlier ++ round :: later)
    {surroundings : Surroundings} (follows : surroundings.Follows history.record) :
    round.Settles (((surroundings.afterAll (history.recordBefore earlier)).afterAll
      round.opening).afterAll round.traversal) := by
  have inRounds : round ∈ history.rounds := place ▸ List.mem_append_right _ List.mem_cons_self
  have runs := history.runs_of_mem inRounds
  obtain ⟨opening, goesOn⟩ := history.follows_round place follows
  obtain ⟨unopened, unheard⟩ := runs.fresh opening
  exact runs.settles (history.remaining_eq_of_nodup few once inRounds) unopened unheard goesOn

end StopHistory

/-- The account of the barriers of a stop pass, whatever the registry answers and however often a
name is listed. When a group comes to its wait, the count of its barrier is the number of signals
given out in its traversal, and one more for each time more that a smart member's name is listed
which was left when the group began; and no count down was lost at zero. If no name is listed twice,
the count is that of the signals, and the wait ends with the last of their resolutions, at once if
no signal is open, or else at the deadline. The length of a snapshot is a word of 64 bits. -/
theorem stopPass_barriers_count_signals {snapshot : List Member} {timeout : Nat}
    {record : List Exchange} {report : StopReport} (few : snapshot.length < 0x10000000000000000)
    (yields : (stopPass snapshot timeout).Yields record report) :
    ∃ history : StopHistory snapshot timeout, history.record = record ∧ history.report = report ∧
      ∀ earlier round later, history.rounds = earlier ++ round :: later →
        round.LosesNone ∧
        round.stopping.barrier.remaining =
          (issuedIn round.mark round.traversal).length + round.sorted.surplus round.left ∧
        ((snapshot.map (·.name)).Nodup →
          round.stopping.barrier.remaining = (issuedIn round.mark round.traversal).length ∧
          ∀ surroundings : Surroundings, surroundings.Follows record →
            EndsOnTime round.mark timeout
              (surroundings.afterAll (history.recordBefore earlier ++
                (round.opening ++ round.traversal)))
              round.waiting) := by
  obtain ⟨history, rfl, rfl⟩ := exists_stopHistory yields
  refine ⟨history, rfl, rfl, fun earlier round later place => ?_⟩
  have inRounds : round ∈ history.rounds := place ▸ List.mem_append_right _ List.mem_cons_self
  obtain ⟨losesNone, remaining⟩ := history.remaining_eq few inRounds
  refine ⟨losesNone, remaining, fun once =>
    ⟨history.remaining_eq_of_nodup few once inRounds, fun surroundings follows => ?_⟩⟩
  have sameTimeout : round.sorted.timeout = timeout := by
    rw [(history.runs_of_mem inRounds).rearranged.timeout]
    exact (settings_of_groupSnapshot history.gathered _ (history.group_mem inRounds)).1
  have onTime := (history.settles few once place follows).onTime
  rw [sameTimeout] at onTime
  rw [Surroundings.afterAll_append, Surroundings.afterAll_append]
  exact onTime

/-- A queue, and a mailer of an earlier phase that depends on it, so that the mailer is stopped
together with the queue. -/
def queueAndMailer : List Member :=
  [⟨"mailer", ⟨"mailer", .smart⟩⟩, ⟨"queue", ⟨"queue", .smart⟩⟩]

def queueDependents (name : String) : List String :=
  if name = "queue" then ["mailer"] else []

def queueHabits : Habits where
  dependents := queueDependents
  phase component := if component.key = "queue" then 1 else 0

def queueRecord : List Exchange :=
  queueHabits.record (queueAndMailer.map Member.component) (stopPass queueAndMailer 100)

theorem queue_awaits_mailer :
    (turnsIn queueRecord).map (·.name) = ["mailer", "queue"] ∧
    ∃ history : StopHistory queueAndMailer 100, history.record = queueRecord ∧
      ∀ earlier round later, history.rounds = earlier ++ round :: later →
        round.stopping.barrier.remaining = (issuedIn round.mark round.traversal).length ∧
        EndsOnTime round.mark 100
          (({} : Surroundings).afterAll (history.recordBefore earlier ++
            (round.opening ++ round.traversal)))
          round.waiting := by
  refine ⟨by cbv, ?_⟩
  have follows : ({} : Surroundings).Follows queueRecord := queueHabits.follows_record _ _
  obtain ⟨history, record, -, accounts⟩ :=
    stopPass_barriers_count_signals (by decide) (queueHabits.yields_record
      (queueAndMailer.map Member.component) (stopPass queueAndMailer 100))
  refine ⟨history, record, fun earlier round later place => ?_⟩
  obtain ⟨-, -, distinct⟩ := accounts earlier round later place
  obtain ⟨remaining, onTime⟩ := distinct (by decide)
  exact ⟨remaining, onTime {} follows⟩

end PhasedLifecycle
