/-
This file shows that the check for circles tells whether passes can honour what is on record. Three
things that know nothing of each other agree: the check follows the dependencies of registered names,
a start pass goes down along the same table from roots sorted by phase, and a stop pass goes down
along the other table from roots sorted the other way.

Where no name lies on a circle, every name has its turn after all that it leads to. Where one does,
the ranks of the names on the circle cannot all fall along its edges, so some edge is not honoured.
-/

import PhasedLifecycle.Proofs.Calls
import PhasedLifecycle.Proofs.CircleSearch
import PhasedLifecycle.Proofs.RegistryHistory
import PhasedLifecycle.Proofs.StartOrder
import PhasedLifecycle.Proofs.StopOrder

namespace PhasedLifecycle

open Pass Relation

/-! ### Pairs in a list -/

section

variable {Entry Image : Type} {entries : List Entry} {first second : Entry}

theorem pair_sublist_iff : [first, second].Sublist entries ↔
    ∃ front back, entries = front ++ back ∧ first ∈ front ∧ second ∈ back := by
  rw [List.cons_sublist_iff]
  simp only [List.singleton_sublist]

theorem pair_sublist_map_iff {image : Entry → Image}
    (apart : ∀ entry ∈ entries, ∀ other ∈ entries, image entry = image other → entry = other)
    (firstThere : first ∈ entries) (secondThere : second ∈ entries) :
    [image first, image second].Sublist (entries.map image) ↔ [first, second].Sublist entries := by
  constructor
  · intro pair
    obtain ⟨chosen, inside, same⟩ := List.sublist_map_iff.mp pair
    have injective : ∀ other ∈ chosen, ∀ entry ∈ entries, image other = image entry → other = entry :=
      fun other there entry entryThere => apart other (inside.subset there) entry entryThere
    obtain ⟨former, rest, rfl, sameFirst, last⟩ := List.map_eq_cons_iff.mp same.symm
    obtain ⟨latter, none, rfl, sameSecond, ended⟩ := List.map_eq_cons_iff.mp last
    rw [List.map_eq_nil_iff.mp ended] at inside injective
    rw [← injective former List.mem_cons_self first firstThere sameFirst,
      ← injective latter (List.mem_cons_of_mem _ List.mem_cons_self) second secondThere sameSecond]
    exact inside
  · exact fun pair => pair.map image

theorem idxOf_lt_of_pair_sublist [BEq Entry] [LawfulBEq Entry] (once : entries.Nodup)
    (pair : [first, second].Sublist entries) : entries.idxOf first < entries.idxOf second := by
  obtain ⟨front, back, rfl, firstThere, secondThere⟩ := pair_sublist_iff.mp pair
  have later : second ∉ front := fun early =>
    (List.nodup_append.mp once).2.2 second early second secondThere rfl
  rw [List.idxOf_append_of_mem firstThere, List.idxOf_append_of_notMem later]
  exact Nat.lt_of_lt_of_le (List.idxOf_lt_length_of_mem firstThere) (Nat.le_add_right _ _)

end

/-! ### Circles and orders -/

/-- In an ordered list of all names, the edges are honoured just when no name lies on a circle. -/
theorem Descent.Ordered.honours_iff {edges : String → List String} {names order : List String}
    (ordered : Ordered edges names order) (once : order.Nodup) (all : ∀ name ∈ names, name ∈ order) :
    (∀ name, ¬ OnCircle edges names name) ↔
      ∀ first second, Leads edges names first second → [second, first].Sublist order := by
  constructor
  · intro straight first second edge
    obtain ⟨earlier, later, place⟩ := List.append_of_mem (all first edge.1)
    have different : second ≠ first := by
      rintro rfl
      exact straight second (TransGen.single edge)
    have before := ordered.precedes place (straight first) (ReflTransGen.single edge) different
    exact pair_sublist_iff.mpr ⟨earlier, first :: later, place, before, List.mem_cons_self⟩
  · intro honoured
    exact not_onCircle_of_rank order.idxOf fun first second edge =>
      idxOf_lt_of_pair_sublist once (honoured first second edge)

/-- The same for the turns of a pass: where they are one for each member, and each component has one
name, the order of names is that of components. -/
theorem honours_iff_of_turns {edges : String → List String} {members : List Member}
    {turns : List Turn} (once : (members.map (·.name)).Nodup)
    (apart : (members.map (·.component)).Nodup) (all : (turns.map Turn.member).Perm members)
    (ordered : Descent.Ordered edges (members.map (·.name)) (turns.map (·.name))) :
    (∀ name, ¬ OnCircle edges (members.map (·.name)) name) ↔
      ∀ first ∈ members, ∀ second ∈ members, second.name ∈ edges first.name →
        [second.component, first.component].Sublist (turns.map (·.component)) := by
  have names : turns.map (·.name) = (turns.map Turn.member).map (·.name) := by
    rw [List.map_map]
    rfl
  have components : turns.map (·.component) = (turns.map Turn.member).map (·.component) := by
    rw [List.map_map]
    rfl
  have sameOrder : ∀ first ∈ members, ∀ second ∈ members,
      [second.component, first.component].Sublist (turns.map (·.component)) ↔
        [second.name, first.name].Sublist (turns.map (·.name)) := by
    intro first firstThere second secondThere
    have inTurns : ∀ member ∈ members, member ∈ turns.map Turn.member :=
      fun member there => all.mem_iff.mpr there
    rw [components, names, pair_sublist_map_iff (List.inj_on_of_nodup_map
        ((all.map Member.component).nodup_iff.mpr apart)) (inTurns second secondThere)
        (inTurns first firstThere),
      pair_sublist_map_iff (List.inj_on_of_nodup_map ((all.map Member.name).nodup_iff.mpr once))
        (inTurns second secondThere) (inTurns first firstThere)]
  have distinct : (turns.map (·.name)).Nodup := by
    rw [names]
    exact (all.map Member.name).nodup_iff.mpr once
  have covered : ∀ name ∈ members.map (·.name), name ∈ turns.map (·.name) := by
    intro name there
    rw [names]
    exact (all.map Member.name).mem_iff.mpr there
  rw [ordered.honours_iff distinct covered]
  constructor
  · intro honoured first firstThere second secondThere listed
    exact (sameOrder first firstThere second secondThere).mpr (honoured first.name second.name
      ⟨List.mem_map_of_mem firstThere, List.mem_map_of_mem secondThere, listed⟩)
  · rintro honoured _ _ ⟨firstThere, secondThere, listed⟩
    obtain ⟨first, firstMember, rfl⟩ := List.mem_map.mp firstThere
    obtain ⟨second, secondMember, rfl⟩ := List.mem_map.mp secondThere
    exact (sameOrder first firstMember second secondMember).mp
      (honoured first firstMember second secondMember listed)

/-- The check for circles finds none just when no registered name lies on one. -/
theorem Registry.circle?_eq_none_iff (registry : Registry) :
    registry.circle? = none ↔
      ∀ name, ¬ OnCircle registry.dependenciesOf registry.names name := by
  have names : registry.graph.names = registry.names := by
    rw [DependencyGraph.names, graph, List.map_map]
    exact List.map_id _
  have edges : ∀ name ∈ registry.names,
      registry.graph.edges name = registry.dependenciesOf name := by
    intro name registered
    cases found : registry.graph.node? name with
    | none =>
      rw [DependencyGraph.node?_eq_none_iff, names] at found
      exact absurd registered found
    | some node =>
      have same := List.find?_some found
      have inGraph := List.mem_reverse.mp (List.mem_of_find?_eq_some found)
      obtain ⟨other, -, rfl⟩ := List.mem_map.mp inGraph
      have same : other = name := eq_of_beq same
      rw [DependencyGraph.edges_of_node? found, same]
  rw [circle?, DependencyGraph.findCircle?_eq_none_iff, names]
  unfold OnCircle
  rw [leads_congr_edges edges]

/-! ### The calls of passes over all components -/

/-- A start pass in which no component runs and every start succeeds starts each component once, in
the order of the turns. -/
theorem startsIn_startPass {snapshot : List Member} {timeout : Nat} {record : List Exchange}
    {outcome : Except LifecycleError Unit} {edges : String → List String}
    {running : Component → Bool}
    (once : (snapshot.map (·.name)).Nodup) (apart : (snapshot.map (·.component)).Nodup)
    (yields : (startPass snapshot timeout false).Yields record outcome)
    (fixed : ∀ exchange ∈ record, exchange.KeepsDependencies edges)
    (keeps : KeepsState running record) (idle : ∀ member ∈ snapshot, running member.component = false)
    (succeeds : ∀ component reason, Call.start component reason ∈ callsIn record → reason = none) :
    startsIn record = (turnsIn record).map (·.component) ∧
      ((turnsIn record).map Turn.member).Perm snapshot ∧
      Descent.Ordered edges (snapshot.map (·.name)) ((turnsIn record).map (·.name)) := by
  obtain rfl : outcome = .ok () := by
    cases outcome with
    | ok done => rfl
    | error error =>
      obtain ⟨component, reason, called⟩ := failing_call_of_startPass yields fixed
      cases succeeds component (some reason) called
  obtain ⟨strays, all, kinds, ordered⟩ := turns_of_startPass once yields fixed
  have distinct := (perm_components all).nodup_iff.mpr apart
  have starts : ∀ turn ∈ turnsIn record, turn.calls = [.start turn.component none] := by
    intro turn there
    have ran := keeps.ran_of_mem strays distinct turn there
    have idle : running turn.component = false :=
      idle turn.member (all.mem_iff.mp (List.mem_map_of_mem there))
    rw [idle] at ran
    cases kinds turn there with
    | running name component => cases ran
    | declining name component automatic => cases automatic
    | starting name component auto => rfl
  exact ⟨components_callsIn strays fun turn there => ⟨_, starts turn there, rfl⟩, all, ordered⟩

/-- A stop pass in which every component runs stops each of them once, in the order of the turns. -/
theorem stopsIn_stopPass {snapshot : List Member} {timeout : Nat} {record : List Exchange}
    {report : StopReport} {edges : String → List String} {running : Component → Bool}
    (once : (snapshot.map (·.name)).Nodup) (apart : (snapshot.map (·.component)).Nodup)
    (yields : (stopPass snapshot timeout).Yields record report)
    (fixed : ∀ exchange ∈ record, exchange.KeepsDependents edges)
    (keeps : KeepsState running record)
    (busy : ∀ member ∈ snapshot, running member.component = true) :
    stopsIn record = (turnsIn record).map (·.component) ∧
      ((turnsIn record).map Turn.member).Perm snapshot ∧
      Descent.Ordered edges (snapshot.map (·.name)) ((turnsIn record).map (·.name)) := by
  obtain ⟨history, rfl, rfl⟩ := exists_stopHistory yields
  have all : ((turnsIn history.record).map Turn.member).Perm snapshot := by
    rw [history.turnsIn_record]
    exact history.perm_members once
  have distinct := (perm_components all).nodup_iff.mpr apart
  have stops : ∀ turn ∈ turnsIn history.record,
      ∃ call, turn.calls = [call] ∧ (!call.isStart) = true := by
    intro turn there
    have ran := keeps.ran_of_mem history.strays_record distinct turn there
    have busy : running turn.component = true :=
      busy turn.member (all.mem_iff.mp (List.mem_map_of_mem there))
    rw [busy] at ran
    rw [history.turnsIn_record] at there
    obtain ⟨round, inRounds, inRound⟩ := List.mem_flatMap.mp there
    cases (history.runs_of_mem inRounds).span.1.kinds turn inRound with
    | idle name component => cases ran
    | stopping name component reason waits => exact ⟨_, rfl, rfl⟩
    | signalling name component reason smart => exact ⟨_, rfl, rfl⟩
  refine ⟨components_callsIn history.strays_record stops, all, ?_⟩
  have ordered := history.ordered fixed
  unfold Descent.Ordered at ordered ⊢
  rw [leads_congr (WorkingSet.mem_names_ofList snapshot)] at ordered
  exact ordered

/-! ### The check and the passes -/

/-- The check for circles tells whether passes honour what is on record, whatever was done to the
registry and whatever phases components answer, if each component goes by one name. It finds no
circle just when a start pass, begun where no component runs and with every start succeeding, starts
what is depended on before what depends on it, for every dependency that was recorded between
registered names; and just when a stop pass, begun where every component runs, stops what depends on
another before the other. A component that depends on itself would have to be called twice, and each
is called once. -/
theorem circle?_eq_none_iff_passes_honour (operations : List Operation)
    (apart : ((Registry.after operations).members.map (·.component)).Nodup) :
    (∀ timeout record outcome running,
      (startPass (Registry.after operations).members timeout false).Yields record outcome →
      (∀ exchange ∈ record,
        exchange.KeepsDependencies (Registry.after operations).dependenciesOf) →
      KeepsState running record →
      (∀ member ∈ (Registry.after operations).members, running member.component = false) →
      (∀ component reason, Call.start component reason ∈ callsIn record → reason = none) →
      (startsIn record).Perm ((Registry.after operations).members.map (·.component)) ∧
      ((Registry.after operations).circle? = none ↔
        ∀ dependent ∈ (Registry.after operations).members,
          ∀ dependency ∈ (Registry.after operations).members,
            ⟨dependent.name, dependency.name⟩ ∈ recordedBy operations →
              [dependency.component, dependent.component].Sublist (startsIn record))) ∧
    (∀ timeout record report running,
      (stopPass (Registry.after operations).members timeout).Yields record report →
      (∀ exchange ∈ record, exchange.KeepsDependents (Registry.after operations).dependentsOf) →
      KeepsState running record →
      (∀ member ∈ (Registry.after operations).members, running member.component = true) →
      (stopsIn record).Perm ((Registry.after operations).members.map (·.component)) ∧
      ((Registry.after operations).circle? = none ↔
        ∀ dependent ∈ (Registry.after operations).members,
          ∀ dependency ∈ (Registry.after operations).members,
            ⟨dependent.name, dependency.name⟩ ∈ recordedBy operations →
              [dependent.component, dependency.component].Sublist (stopsIn record))) := by
  have holds := Registry.holds_after operations
  have once : ((Registry.after operations).members.map (·.name)).Nodup := holds.once
  constructor
  · intro timeout record outcome running yields fixed keeps idle succeeds
    obtain ⟨starts, all, ordered⟩ :=
      startsIn_startPass once apart yields fixed keeps idle succeeds
    rw [starts]
    refine ⟨perm_components all, ?_⟩
    rw [Registry.circle?_eq_none_iff]
    refine (honours_iff_of_turns once apart all ordered).trans ?_
    refine forall₂_congr fun dependent _ => forall₂_congr fun dependency _ => ?_
    rw [holds.mem_dependenciesOf]
  · intro timeout record report running yields fixed keeps busy
    obtain ⟨stops, all, ordered⟩ := stopsIn_stopPass once apart yields fixed keeps busy
    rw [stops]
    refine ⟨perm_components all, ?_⟩
    rw [Registry.circle?_eq_none_iff]
    have mirrored : (∀ name, ¬ OnCircle (Registry.after operations).dependenciesOf
        (Registry.after operations).names name) ↔
        ∀ name, ¬ OnCircle (Registry.after operations).dependentsOf
          (Registry.after operations).names name :=
      forall_congr' fun name => not_congr (onCircle_mirror holds.mirror name).symm
    refine mirrored.trans ((honours_iff_of_turns once apart all ordered).trans ?_)
    constructor
    · intro honoured dependent dependentThere dependency dependencyThere recorded
      exact honoured dependency dependencyThere dependent dependentThere
        ((holds.mem_dependentsOf _ _).mpr recorded)
    · intro honoured dependency dependencyThere dependent dependentThere listed
      exact honoured dependent dependentThere dependency dependencyThere
        ((holds.mem_dependentsOf _ _).mp listed)

/-- A site that is registered before the store it depends on, and has an earlier phase. -/
def storeOperations : List Operation :=
  [.register "site" ⟨"site", .phased⟩, .dependsOn "site" "store", .register "store" ⟨"store", .smart⟩]

def storeHabits : Habits where
  dependencies := (Registry.after storeOperations).dependenciesOf
  dependents := (Registry.after storeOperations).dependentsOf
  phase component := if component.key = "site" then 0 else 1

def storeStarts : List Exchange :=
  storeHabits.record [] (startPass (Registry.after storeOperations).members 100 false)

def storeStops : List Exchange :=
  storeHabits.record ((Registry.after storeOperations).members.map Member.component)
    (stopPass (Registry.after storeOperations).members 100)

theorem store_starts_first_and_stops_last :
    (Registry.after storeOperations).circle? = none ∧
      [⟨"store", .smart⟩, ⟨"site", .phased⟩].Sublist (startsIn storeStarts) ∧
      [⟨"site", .phased⟩, ⟨"store", .smart⟩].Sublist (stopsIn storeStops) := by
  have straight : (Registry.after storeOperations).circle? = none := by cbv
  have recorded : ⟨"site", "store"⟩ ∈ recordedBy storeOperations := by decide
  have succeeds : ∀ component reason,
      Call.start component reason ∈ callsIn storeStarts → reason = none := by
    have calls : callsIn storeStarts =
        [.start ⟨"store", .smart⟩ none, .start ⟨"site", .phased⟩ none] := by cbv
    intro component reason called
    rw [calls] at called
    rcases List.mem_cons.mp called with same | called
    · exact (Call.start.inj same).2
    · exact (Call.start.inj (List.mem_singleton.mp called)).2
  obtain ⟨starting, stopping⟩ := circle?_eq_none_iff_passes_honour storeOperations (by decide)
  obtain ⟨-, starts⟩ := starting _ storeStarts _ _ (storeHabits.yields_record _ _)
    (storeHabits.keepsDependencies_record _ _) (storeHabits.keepsState_record _ _) (by decide) succeeds
  obtain ⟨-, stops⟩ := stopping _ storeStops _ _ (storeHabits.yields_record _ _)
    (storeHabits.keepsDependents_record _ _) (storeHabits.keepsState_record _ _) (by decide)
  have site : ⟨"site", ⟨"site", .phased⟩⟩ ∈ (Registry.after storeOperations).members := by decide
  have store : ⟨"store", ⟨"store", .smart⟩⟩ ∈ (Registry.after storeOperations).members := by decide
  exact ⟨straight, starts.mp straight _ site _ store recorded,
    stops.mp straight _ site _ store recorded⟩

end PhasedLifecycle
