/-
This file takes the record of a stop pass apart into rounds, one for each group. A round opens with
the sorting of its group and the mark of its barrier; then its traversal, its wait and its closing
follow. Each round begins with the working set and the report that the round before it left, and the
sets get smaller: a name whose turn has come in one round is missing from all later ones.
-/

import PhasedLifecycle.Proofs.StopTraversal

namespace PhasedLifecycle

open Pass

/-! ### Rounds -/

/-- The stop of one group: what it begins with, the four parts of its record, and what each of these
ends with. -/
structure StopRound where
  group : Group
  left : WorkingSet
  before : StopReport
  opening : List Exchange
  sorted : Group
  mark : Nat
  traversal : List Exchange
  stopping : Stopping
  waiting : List Exchange
  outcome : BarrierOutcome
  closing : List Exchange
  after : StopReport

namespace StopRound

/-- The record of the round. -/
def record (round : StopRound) : List Exchange :=
  round.opening ++ (round.traversal ++ (round.waiting ++ round.closing))

/-- The turns of the round, in order. -/
def turns (round : StopRound) : List Turn :=
  turnsIn round.traversal

/-- What a pass does about a group, up to the mark of its barrier. -/
def opens (group : Group) : Pass (Group × Nat) := do
  Pass.note (.phaseOpened group.phase group.members.length)
  group.beginStop

/-- The four parts of a round follow the program. -/
structure Runs (round : StopRound) : Prop where
  opened : (opens round.group).Yields round.opening (round.sorted, round.mark)
  traversed : (round.sorted.traverse round.mark round.left round.before).Yields round.traversal
    round.stopping
  awaited : (round.stopping.barrier.await round.sorted.timeout).Yields round.waiting round.outcome
  settled : (round.sorted.settle round.outcome round.stopping.report).Yields round.closing round.after

end StopRound

/-- Rounds in a row, one for each group, each beginning with what the one before it left. -/
inductive StopRounds : List Group → WorkingSet → StopReport → List StopRound → WorkingSet →
    StopReport → Prop
  | nil (left : WorkingSet) (report : StopReport) : StopRounds [] left report [] left report
  | cons {round : StopRound} {groups : List Group} {rounds : List StopRound} {left : WorkingSet}
    {report : StopReport} (runs : round.Runs)
    (rest : StopRounds groups round.stopping.left round.after rounds left report) :
    StopRounds (round.group :: groups) round.left round.before (round :: rounds) left report

/-- A stop pass taken apart: the gathering of its groups, and a round for each of them, the last
group first. -/
structure StopHistory (snapshot : List Member) (timeout : Nat) where
  gathering : List Exchange
  groups : List Group
  rounds : List StopRound
  left : WorkingSet
  report : StopReport
  gathered : (groupSnapshot snapshot timeout false).Yields gathering groups
  chained : StopRounds groups.reverse (WorkingSet.ofList snapshot) {} rounds left report

/-- The record of the whole pass. -/
def StopHistory.record {snapshot : List Member} {timeout : Nat}
    (history : StopHistory snapshot timeout) : List Exchange :=
  history.gathering ++ history.rounds.flatMap StopRound.record

/-! ### The rounds of a pass -/

theorem Group.yields_stop {group sorted : Group} {left laterLeft : WorkingSet}
    {before after : StopReport} {record : List Exchange} (occupied : group.members ≠ [])
    (yields : (do
        Pass.note (.phaseOpened group.phase group.members.length)
        group.stop left before).Yields record (sorted, laterLeft, after)) :
    ∃ round : StopRound, round.Runs ∧ round.group = group ∧ round.left = left ∧
      round.before = before ∧ round.record = record ∧ round.stopping.left = laterLeft ∧
      round.after = after := by
  obtain ⟨resolved, instant, rest, rfl, stops⟩ := yields_note_bind.mp yields
  have filled : ¬ group.members.isEmpty = true := fun empty =>
    occupied (List.isEmpty_iff.mp empty)
  unfold Group.stop at stops
  rw [if_neg filled] at stops
  obtain ⟨opening, ⟨arranged, mark⟩, rest, opened, traverses, rfl⟩ := yields_bind.mp stops
  obtain ⟨traversal, stopping, rest, traversed, awaits, rfl⟩ := yields_bind.mp traverses
  obtain ⟨waiting, outcome, rest, awaited, settles, rfl⟩ := yields_bind.mp awaits
  obtain ⟨closing, report, _, settled, ⟨rfl, same⟩, rfl⟩ := yields_bind.mp settles
  obtain ⟨rfl, rfl, rfl⟩ : sorted = arranged ∧ laterLeft = stopping.left ∧ after = report := by
    simpa using same
  refine ⟨⟨group, left, before, ⟨.note (.phaseOpened group.phase group.members.length), (),
    resolved, instant⟩ :: opening, sorted, mark, traversal, stopping, waiting, outcome, closing,
    after⟩, ⟨?_, traversed, awaited, settled⟩, rfl, rfl, rfl, ?_, rfl, rfl⟩
  · exact yields_note_bind.mpr ⟨resolved, instant, opening, rfl, opened⟩
  · rw [List.append_nil]
    rfl

theorem yields_stopGroups {groups : List Group} {left laterLeft : WorkingSet}
    {before after : StopReport} {record : List Exchange}
    (occupied : ∀ group ∈ groups, group.members ≠ [])
    (yields : (stopGroups groups left before).Yields record (laterLeft, after)) :
    ∃ rounds, StopRounds groups left before rounds laterLeft after ∧
      record = rounds.flatMap StopRound.record := by
  unfold stopGroups at yields
  induction groups generalizing left before record with
  | nil =>
    obtain ⟨rfl, same⟩ := yields
    obtain ⟨rfl, rfl⟩ := Prod.mk.inj same
    exact ⟨[], .nil _ _, rfl⟩
  | cons group groups inductionHypothesis =>
    obtain ⟨first, ⟨middleLeft, middle⟩, last, one, later, rfl⟩ := yields_foldlM_cons.mp yields
    have stops : ∃ sorted, (do
        Pass.note (.phaseOpened group.phase group.members.length)
        group.stop left before).Yields first (sorted, middleLeft, middle) := by
      obtain ⟨resolved, instant, rest, rfl, stops⟩ := yields_note_bind.mp one
      obtain ⟨stop, ⟨sorted, result⟩, _, stopped, ⟨rfl, same⟩, rfl⟩ := yields_bind.mp stops
      obtain rfl : result = (middleLeft, middle) := same.symm
      rw [List.append_nil]
      exact ⟨sorted, yields_note_bind.mpr ⟨resolved, instant, stop, rfl, stopped⟩⟩
    obtain ⟨sorted, stops⟩ := stops
    obtain ⟨round, runs, rfl, rfl, rfl, rfl, rfl, rfl⟩ :=
      Group.yields_stop (occupied group List.mem_cons_self) stops
    obtain ⟨others, chained, rfl⟩ := inductionHypothesis
      (fun group there => occupied group (List.mem_cons_of_mem _ there)) later
    exact ⟨round :: others, .cons runs chained, rfl⟩

/-- Every stop pass has a history. -/
theorem exists_stopHistory {snapshot : List Member} {timeout : Nat} {record : List Exchange}
    {report : StopReport} (yields : (stopPass snapshot timeout).Yields record report) :
    ∃ history : StopHistory snapshot timeout, history.record = record ∧ history.report = report := by
  obtain ⟨gathering, groups, rest, gathered, stops, rfl⟩ := yields_bind.mp yields
  obtain ⟨_, ⟨left, result⟩, _, stopped, ⟨rfl, rfl⟩, rfl⟩ := yields_bind.mp stops
  obtain ⟨rounds, chained, rfl⟩ := yields_stopGroups
    (fun group there => members_ne_nil_of_groupSnapshot gathered group (List.mem_reverse.mp there))
    stopped
  rw [List.append_nil]
  exact ⟨⟨gathering, groups, rounds, left, report, gathered, chained⟩, rfl, rfl⟩

/-! ### What a round does -/

theorem StopRound.asks_opens {kind : Request → Prop} (notes : ∀ notice, kind (.note notice))
    (phases : ∀ component, kind (.phase component)) (mark : kind .barrierMark) (group : Group) :
    (opens group).Asks kind :=
  asks_bind (asks_ask (notes _)) fun _ => asks_bind (asks_ask (notes _)) fun _ =>
    asks_bind (group.asks_descending phases) fun _ => asks_bind (asks_ask mark) fun _ =>
      asks_pure _ _

theorem Group.asks_settle {kind : Request → Prop} (notes : ∀ notice, kind (.note notice))
    (group : Group) (outcome : BarrierOutcome) (report : StopReport) :
    (group.settle outcome report).Asks kind := by
  refine asks_bind (asks_foldlM (fun report name => ?_) _ _) fun report => ?_
  · unfold StopReport.recordDropped
    split
    · exact asks_pure _ _
    · exact asks_bind (asks_ask (notes _)) fun _ => asks_pure _ _
  · split
    · exact asks_bind (asks_ask (notes _)) fun _ => asks_pure _ _
    · exact asks_pure _ _

namespace StopRound.Runs

variable {round : StopRound}

/-- The group is sorted in the opening. -/
theorem sorting (runs : round.Runs) : ∃ sorting, (∀ exchange ∈ sorting, exchange ∈ round.opening) ∧
    round.group.descending.Yields sorting round.sorted := by
  obtain ⟨_, _, rest, opening, begins⟩ := yields_note_bind.mp runs.opened
  obtain ⟨_, _, _, rfl, sorts⟩ := yields_note_bind.mp begins
  obtain ⟨sorting, sorted, _, arranges, marks, rfl⟩ := yields_bind.mp sorts
  obtain ⟨_, mark, _, _, ⟨_, same⟩, _⟩ := yields_bind.mp marks
  obtain ⟨rfl, rfl⟩ := Prod.mk.inj same
  refine ⟨sorting, fun exchange there => ?_, arranges⟩
  rw [opening]
  exact List.mem_cons_of_mem _ (List.mem_cons_of_mem _ (List.mem_append_left _ there))

theorem rearranged (runs : round.Runs) : round.group.Rearranged round.sorted := by
  obtain ⟨_, -, sorts⟩ := runs.sorting
  exact Group.yields_descending sorts

/-- The last question of the opening is for the mark. -/
theorem opening_eq (runs : round.Runs) : ∃ asides resolved instant,
    round.opening = asides ++ [⟨.barrierMark, round.mark, resolved, instant⟩] := by
  obtain ⟨_, _, rest, opening, begins⟩ := yields_note_bind.mp runs.opened
  obtain ⟨_, _, _, rfl, sorts⟩ := yields_note_bind.mp begins
  obtain ⟨sorting, sorted, _, _, marks, rfl⟩ := yields_bind.mp sorts
  obtain ⟨asked, mark, _, answered, ⟨rfl, same⟩, rfl⟩ := yields_bind.mp marks
  obtain ⟨rfl, rfl⟩ := Prod.mk.inj same
  obtain ⟨resolved, instant, rfl⟩ := yields_ask.mp answered
  rw [List.append_nil, ← List.cons_append, ← List.cons_append] at opening
  exact ⟨_, resolved, instant, opening⟩

theorem aside_opening (runs : round.Runs) :
    ∀ exchange ∈ round.opening, exchange.request.isAside :=
  runs.opened.request_of_asks (asks_opens (fun _ => trivial) (fun _ => trivial) trivial _)

/-- Nothing is known of the barrier of a round before its traversal. -/
theorem fresh (runs : round.Runs) {surroundings : Surroundings}
    (follows : surroundings.Follows round.opening) :
    (surroundings.afterAll round.opening).openFor round.mark = [] ∧
      (surroundings.afterAll round.opening).mailFor round.mark = [] := by
  obtain ⟨asides, resolved, instant, opening⟩ := runs.opening_eq
  rw [opening] at follows ⊢
  obtain ⟨-, -, -, marked, -⟩ := Surroundings.follows_append.mp follows
  rw [Surroundings.afterAll_append]
  exact marked

/-- The traversal of a round is a span from the working set and the report it begins with, with a
barrier that awaits the smart members. -/
theorem span (runs : round.Runs) :
    StopSpan (round.sorted.members.map (·.name)) round.traversal
        { left := round.left
          barrier := { mark := round.mark, remaining := round.sorted.smartCount }
          report := round.before }
        round.stopping round.turns (round.sorted.members.countP (·.isSkipped round.left)) ∧
      ∀ member ∈ round.sorted.members, member.name ∈ round.left.names →
        member.name ∈ round.turns.map (·.name) := by
  obtain ⟨turns, span, drained⟩ := Group.span_traverse runs.traversed
  have same : turns = round.turns := by
    rw [StopRound.turns, turnsIn, span.reads]
    simp
  rw [← same]
  exact ⟨span, drained⟩

theorem aside_waiting (runs : round.Runs) :
    ∀ exchange ∈ round.waiting, exchange.request.isAside := by
  have asks : ∀ (questions deadline : Nat) (wait : Wait),
      (wait.run deadline questions).Asks Request.isAside := by
    intro questions deadline
    induction questions with
    | zero => exact fun wait => asks_pure _ _
    | succ questions inductionHypothesis =>
      intro wait
      rw [Wait.run]
      split
      · exact asks_pure _ _
      · refine asks_bind (asks_ask trivial) fun answer => ?_
        cases answer with
        | none => exact asks_pure _ _
        | some arrival => exact inductionHypothesis _
  exact runs.awaited.request_of_asks (asks_bind (asks_ask trivial) fun now => asks _ _ _)

theorem aside_closing (runs : round.Runs) :
    ∀ exchange ∈ round.closing, exchange.request.isAside :=
  runs.settled.request_of_asks (Group.asks_settle (fun _ => trivial) _ _ _)

/-- A round is read as its turns. -/
theorem reads (runs : round.Runs) (docket : Docket) :
    docket.readAll round.record = { docket with turns := round.turns.reverse ++ docket.turns } := by
  rw [StopRound.record, Docket.readAll_append, Docket.readAll_of_isAside runs.aside_opening,
    Docket.readAll_append, runs.span.1.reads, Docket.readAll_append,
    Docket.readAll_of_isAside runs.aside_waiting, Docket.readAll_of_isAside runs.aside_closing]

end StopRound.Runs

/-! ### Rounds in a row -/

namespace StopRounds

variable {groups : List Group} {left laterLeft : WorkingSet} {before after : StopReport}
  {rounds earlier later : List StopRound} {round : StopRound}

theorem groups_eq (chained : StopRounds groups left before rounds laterLeft after) :
    rounds.map (·.group) = groups := by
  induction chained with
  | nil left report => rfl
  | cons runs rest inductionHypothesis => rw [List.map_cons, inductionHypothesis]

/-- Rounds take the names out of the working set whose turns they hold. -/
theorem left_eq (chained : StopRounds groups left before rounds laterLeft after) :
    laterLeft = left.without ((rounds.flatMap StopRound.turns).map (·.name)) := by
  induction chained with
  | nil left report => exact (WorkingSet.without_nil left).symm
  | cons runs rest inductionHypothesis =>
    rw [inductionHypothesis, runs.span.1.left, WorkingSet.without_without, List.flatMap_cons,
      List.map_append]

/-- In rounds in a row each name has at most one turn, and it stands for what it stood for at first.
What is left for the later rounds are names without a turn in the first. -/
theorem once_and_drawn (chained : StopRounds groups left before rounds laterLeft after) :
    ((rounds.flatMap StopRound.turns).map (·.name)).Nodup ∧
      ∀ turn ∈ rounds.flatMap StopRound.turns, left.get? turn.name = some turn.component := by
  induction chained with
  | nil left report => exact ⟨List.nodup_nil, fun turn there => absurd there List.not_mem_nil⟩
  | @cons round groups rounds left report runs rest inductionHypothesis =>
    obtain ⟨span, -⟩ := runs.span
    obtain ⟨onceLater, drawnLater⟩ := inductionHypothesis
    have kept : ∀ turn ∈ rounds.flatMap StopRound.turns, turn.name ∉ round.turns.map (·.name) ∧
        round.left.get? turn.name = some turn.component := by
      intro turn there
      have found := drawnLater turn there
      rw [span.left] at found
      exact WorkingSet.get?_without found
    rw [List.flatMap_cons]
    constructor
    · rw [List.map_append]
      refine List.nodup_append.mpr ⟨span.once, onceLater, ?_⟩
      rintro name early other late rfl
      obtain ⟨turn, there, rfl⟩ := List.mem_map.mp late
      exact (kept turn there).1 early
    · intro turn there
      rcases List.mem_append.mp there with there | there
      · exact span.drawn turn there
      · exact (kept turn there).2

/-- Rounds can be parted at any of them. -/
theorem split (chained : StopRounds groups left before (earlier ++ round :: later) laterLeft after) :
    ∃ first last, groups = first ++ round.group :: last ∧
      StopRounds first left before earlier round.left round.before ∧ round.Runs ∧
      StopRounds last round.stopping.left round.after later laterLeft after := by
  induction earlier generalizing groups left before with
  | nil =>
    cases chained with
    | cons runs rest => exact ⟨[], _, rfl, .nil _ _, runs, rest⟩
  | cons head earlier inductionHypothesis =>
    cases chained with
    | cons runs rest =>
      obtain ⟨first, last, rfl, front, middle, back⟩ := inductionHypothesis rest
      exact ⟨_ :: first, last, rfl, .cons runs front, middle, back⟩

/-- Rounds are read as their turns. -/
theorem reads (chained : StopRounds groups left before rounds laterLeft after) (docket : Docket) :
    docket.readAll (rounds.flatMap StopRound.record) =
      { docket with turns := (rounds.flatMap StopRound.turns).reverse ++ docket.turns } := by
  induction chained generalizing docket with
  | nil left report => rfl
  | cons runs rest inductionHypothesis =>
    rw [List.flatMap_cons, Docket.readAll_append, runs.reads, inductionHypothesis,
      List.flatMap_cons, List.reverse_append, List.append_assoc]

end StopRounds

/-! ### Whole histories -/

namespace StopHistory

variable {snapshot : List Member} {timeout : Nat}

/-- The turns of a stop pass are those of its rounds, and no call goes astray. -/
theorem reads (history : StopHistory snapshot timeout) :
    ({} : Docket).readAll history.record =
      { turns := (history.rounds.flatMap StopRound.turns).reverse } := by
  rw [record, Docket.readAll_append, Docket.readAll_of_isOutset
    (history.gathered.request_of_asks (asks_groupSnapshot snapshot timeout false)),
    history.chained.reads, List.append_nil]

theorem turnsIn_record (history : StopHistory snapshot timeout) :
    turnsIn history.record = history.rounds.flatMap StopRound.turns := by
  rw [turnsIn, history.reads, List.reverse_reverse]

theorem strays_record (history : StopHistory snapshot timeout) :
    (({} : Docket).readAll history.record).strays = [] := by
  rw [history.reads]

section

variable (history : StopHistory snapshot timeout) {earlier later : List StopRound}
  {round : StopRound}

theorem runs_of_mem (member : round ∈ history.rounds) : round.Runs := by
  obtain ⟨earlier, later, place⟩ := List.append_of_mem member
  obtain ⟨_, _, _, _, runs, _⟩ := (place ▸ history.chained).split
  exact runs

theorem group_mem (member : round ∈ history.rounds) : round.group ∈ history.groups := by
  have grouped : round.group ∈ history.rounds.map (·.group) := List.mem_map_of_mem member
  rw [history.chained.groups_eq] at grouped
  exact List.mem_reverse.mp grouped

/-- The members of all groups are what the snapshot lists. -/
theorem members_sublist (member : round ∈ history.rounds) :
    ∃ others, (round.group.members ++ others).Perm (snapshot.map (standing snapshot)) := by
  obtain ⟨front, back, place⟩ := List.append_of_mem (history.group_mem member)
  have all := flatMap_members_groupSnapshot history.gathered
  rw [place, List.flatMap_append, List.flatMap_cons] at all
  refine ⟨front.flatMap (·.members) ++ back.flatMap (·.members), ?_⟩
  refine List.Perm.trans ?_ all
  rw [← List.append_assoc, ← List.append_assoc]
  exact List.perm_append_comm.append_right _

/-- A member of a group is what its name stands for. -/
theorem get?_of_member (inRounds : round ∈ history.rounds) {member : Member}
    (there : member ∈ round.group.members) :
    (WorkingSet.ofList snapshot).get? member.name = some member.component := by
  obtain ⟨others, all⟩ := history.members_sublist inRounds
  obtain ⟨listed, inside, rfl⟩ := List.mem_map.mp (all.subset (List.mem_append_left _ there))
  exact get?_ofList_standing inside

/-- A round begins with what its predecessors left of the snapshot. -/
theorem left_eq (place : history.rounds = earlier ++ round :: later) :
    round.left = (WorkingSet.ofList snapshot).without
      ((earlier.flatMap StopRound.turns).map (·.name)) := by
  obtain ⟨_, _, _, front, _, _⟩ := (place ▸ history.chained).split
  exact front.left_eq

/-- As long as its name is left, a member is what its name stands for in the working set. -/
theorem get?_left_of_member (inRounds : round ∈ history.rounds) {member : Member}
    (there : member ∈ round.group.members) (present : member.name ∈ round.left.names) :
    round.left.get? member.name = some member.component := by
  obtain ⟨earlier, later, place⟩ := List.append_of_mem inRounds
  have left := history.left_eq place
  rw [left] at present ⊢
  rw [WorkingSet.get?_without_of_notMem _ ((WorkingSet.mem_names_without _ _ _).mp present).2]
  exact history.get?_of_member inRounds there

/-- Every member of a group has had its turn by the end of the round. -/
theorem mem_names_turns (place : history.rounds = earlier ++ round :: later) {member : Member}
    (there : member ∈ round.group.members) :
    member.name ∈ ((earlier ++ [round]).flatMap StopRound.turns).map (·.name) := by
  have inRounds : round ∈ history.rounds := place ▸ List.mem_append_right _ List.mem_cons_self
  have runs := history.runs_of_mem inRounds
  rw [List.flatMap_append, List.map_append, List.flatMap_singleton]
  by_cases early : member.name ∈ (earlier.flatMap StopRound.turns).map (·.name)
  · exact List.mem_append_left _ early
  · have present : member.name ∈ round.left.names := by
      rw [history.left_eq place]
      exact (WorkingSet.mem_names_without _ _ _).mpr
        ⟨WorkingSet.mem_names_of_get? (history.get?_of_member inRounds there), early⟩
    exact List.mem_append_right _
      (runs.span.2 member (runs.rearranged.members.mem_iff.mpr there) present)

/-- Every listed name has a turn. -/
theorem exists_turn_of_name {name : String} (listed : name ∈ snapshot.map (·.name)) :
    ∃ turn ∈ history.rounds.flatMap StopRound.turns, turn.name = name := by
  obtain ⟨member, inSnapshot, rfl⟩ := List.mem_map.mp listed
  have grouped : standing snapshot member ∈ history.groups.flatMap (·.members) := by
    rw [(flatMap_members_groupSnapshot history.gathered).mem_iff]
    exact List.mem_map_of_mem inSnapshot
  obtain ⟨group, inGroups, inGroup⟩ := List.mem_flatMap.mp grouped
  rw [← List.mem_reverse, ← history.chained.groups_eq] at inGroups
  obtain ⟨round, inRounds, rfl⟩ := List.mem_map.mp inGroups
  obtain ⟨earlier, later, place⟩ := List.append_of_mem inRounds
  obtain ⟨turn, there, same⟩ := List.mem_map.mp (history.mem_names_turns place inGroup)
  refine ⟨turn, ?_, same⟩
  rw [place, List.append_cons, List.flatMap_append]
  exact List.mem_append_left _ there

/-- Every listed component has a turn. -/
theorem exists_turn (once : (snapshot.map (·.name)).Nodup) {member : Member}
    (listed : member ∈ snapshot) :
    ∃ turn ∈ history.rounds.flatMap StopRound.turns, turn.member = member := by
  obtain ⟨turn, there, same⟩ := history.exists_turn_of_name (List.mem_map_of_mem listed)
  have found := history.chained.once_and_drawn.2 turn there
  rw [same, WorkingSet.get?_ofList_of_mem once listed] at found
  refine ⟨turn, there, ?_⟩
  rw [Turn.member, same, ← Option.some.inj found]

/-- Where each name is listed once, the turns are one for each listed component. -/
theorem perm_members (once : (snapshot.map (·.name)).Nodup) :
    ((history.rounds.flatMap StopRound.turns).map Turn.member).Perm snapshot := by
  obtain ⟨onceTurn, drawn⟩ := history.chained.once_and_drawn
  have distinct : ((history.rounds.flatMap StopRound.turns).map Turn.member).Nodup := by
    refine List.Nodup.of_map Member.name ?_
    rw [List.map_map]
    exact onceTurn
  refine (List.perm_ext_iff_of_nodup distinct (List.Nodup.of_map _ once)).mpr fun member => ?_
  constructor
  · intro there
    obtain ⟨turn, inside, rfl⟩ := List.mem_map.mp there
    exact WorkingSet.mem_of_get?_ofList (drawn turn inside)
  · intro listed
    obtain ⟨turn, there, same⟩ := history.exists_turn once listed
    exact List.mem_map.mpr ⟨turn, there, same⟩

end

end StopHistory

end PhasedLifecycle
