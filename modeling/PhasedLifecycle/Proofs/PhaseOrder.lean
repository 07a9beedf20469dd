/-
This file shows that only dependencies bring a pass out of the order of the phases. A pass goes down from
the members of its groups, phase by phase, so whatever has its turn before a root was come to from that
root or from an earlier one. If its own phase comes later, it did not wait for its group: some component
of a phase that is not later leads to it, through however many others and whichever of them run, are
passed over or stand on a circle.
-/

import PhasedLifecycle.Proofs.CircleOrder
import PhasedLifecycle.Proofs.ExactStarts

namespace PhasedLifecycle

open Pass Relation

/-! ### What a search comes to before a root -/

/-- What has its turn before a root, that root or an earlier one leads to. When it has its turn, the
search from the roots so far has come to the second name, and the first is not behind it. -/
theorem Descent.exists_root_of_precedes {edges : String → List String} {left : WorkingSet}
    (distinct : left.Distinct) {roots front back : List String} {first second : String}
    (place : roots = front ++ second :: back) (there : second ∈ left.names)
    (pair : [first, second].Sublist (roots.foldl (enter edges) { left }).order) :
    ∃ root ∈ front ++ [second], ReflTransGen (Leads edges left.names) root first := by
  have once := ((@sound_initial edges left distinct).enterAll roots).1.once
  have before := idxOf_lt_of_pair_sublist once pair
  have done : second ∈ ((front ++ [second]).foldl (enter edges) { left }).order :=
    mem_order_search distinct (List.mem_append_right _ List.mem_cons_self) there
  have parts : roots = (front ++ [second]) ++ back := by rw [place, List.append_cons]
  obtain ⟨rest, order⟩ := @order_prefix_foldl_enter edges back
    ((front ++ [second]).foldl (enter edges) { left })
  rw [← List.foldl_append, ← parts] at order
  refine exists_root_of_mem_order (by_contra fun late => ?_)
  rw [← order, List.idxOf_append_of_mem done, List.idxOf_append_of_notMem late] at before
  exact absurd (before.trans (List.idxOf_lt_length_of_mem done)) (by omega)

/-! ### The phases of the groups -/

theorem Component.phaseOf_of_yields {fixed : FixedAnswers} {component : Component}
    {record : List Exchange} {phase : Int} (yields : component.phase.Yields record phase)
    (kept : ∀ exchange ∈ record, exchange.KeepsPhases fixed.phase) :
    phase = fixed.phaseOf component := by
  unfold Component.phase at yields
  unfold FixedAnswers.phaseOf
  have asked : (ask (.phase component)).Yields record phase → phase = fixed.phase component := by
    intro asks
    obtain ⟨meanwhile, instant, rfl⟩ := yields_ask.mp asks
    exact kept _ List.mem_cons_self
  cases capability : component.capability with
  | plain =>
    rw [capability] at yields
    exact yields.2
  | phased =>
    rw [capability] at yields
    exact asked yields
  | smart =>
    rw [capability] at yields
    exact asked yields

/-- What groups hold after some members of a snapshot were gathered. -/
structure Gathered (fixed : FixedAnswers) (set : WorkingSet) (autoOnly : Bool) (listed : List Member)
    (record : List Exchange) (groups : List Group) : Prop where
  /-- With fixed phases, the members of a group stand in its phase. -/
  phases : (∀ exchange ∈ record, exchange.KeepsPhases fixed.phase) →
    ∀ group ∈ groups, ∀ member ∈ group.members, fixed.phaseOf member.component = group.phase
  taken : ∀ group ∈ groups, ∀ member ∈ group.members, member.component.IsTaken autoOnly record
  /-- What a gathered name stands for is in a group, unless it declined. -/
  all : ∀ member ∈ listed, ∀ component, set.get? member.name = some component →
    ⟨member.name, component⟩ ∈ groups.flatMap (·.members) ∨ component.HasDeclined autoOnly record

section

variable {fixed : FixedAnswers} {set : WorkingSet} {autoOnly : Bool} {listed : List Member}
  {record asked : List Exchange} {groups : List Group}

/-- A name that is passed over changes nothing. -/
theorem Gathered.pass (gathered : Gathered fixed set autoOnly listed record groups) {member : Member}
    (declined : ∀ component, set.get? member.name = some component →
      component.HasDeclined autoOnly asked) :
    Gathered fixed set autoOnly (listed ++ [member]) (record ++ asked) groups where
  phases := fun kept =>
    gathered.phases fun exchange there => kept exchange (List.mem_append_left _ there)
  taken := fun group there member inside =>
    (gathered.taken group there member inside).mono (List.subset_append_left _ _)
  all := fun other there component stands => by
    rcases List.mem_append.mp there with there | same
    · exact (gathered.all other there component stands).imp_right fun declined =>
        declined.mono (List.subset_append_left _ _)
    · rw [List.mem_singleton.mp same] at stands
      exact Or.inr ((declined component stands).mono (List.subset_append_right _ _))

/-- A member joins the group of its phase. -/
theorem Gathered.join (gathered : Gathered fixed set autoOnly listed record groups) {member : Member}
    {component : Component} {phase : Int} {timeout : Nat}
    (stands : set.get? member.name = some component) (taken : component.IsTaken autoOnly asked)
    (itsPhase : (∀ exchange ∈ asked, exchange.KeepsPhases fixed.phase) →
      phase = fixed.phaseOf component) :
    Gathered fixed set autoOnly (listed ++ [member]) (record ++ asked)
      (addToGroups { phase, timeout, autoOnly } { name := member.name, component } groups) where
  phases := fun kept => by
    have own := (itsPhase fun exchange there => kept exchange (List.mem_append_right _ there)).symm
    have others := gathered.phases fun exchange there => kept exchange (List.mem_append_left _ there)
    refine forall_addToGroups others ?_ fun group there same => ?_
    · intro other inside
      rw [List.mem_singleton.mp inside]
      exact own
    · intro other inside
      rcases List.mem_append.mp inside with inside | inside
      · exact others group there other inside
      · rw [List.mem_singleton.mp inside]
        exact own.trans same
  taken := by
    have own := taken.mono (List.subset_append_right record asked)
    have others : ∀ group ∈ groups, ∀ member ∈ group.members,
        member.component.IsTaken autoOnly (record ++ asked) := fun group there member inside =>
      (gathered.taken group there member inside).mono (List.subset_append_left _ _)
    refine forall_addToGroups others ?_ fun group there _ => ?_
    · exact fun other inside => List.mem_singleton.mp inside ▸ own
    · intro other inside
      rcases List.mem_append.mp inside with inside | inside
      · exact others group there other inside
      · exact List.mem_singleton.mp inside ▸ own
  all := fun other there itsComponent itsOwn => by
    have joined := (flatMap_members_addToGroups { phase, timeout, autoOnly } rfl
      ⟨member.name, component⟩ groups).symm.subset
    rcases List.mem_append.mp there with there | same
    · rcases gathered.all other there itsComponent itsOwn with grouped | declined
      · exact Or.inl (joined (List.mem_append_left _ grouped))
      · exact Or.inr (declined.mono (List.subset_append_left _ _))
    · obtain rfl := List.mem_singleton.mp same
      obtain rfl := Option.some.inj (stands.symm.trans itsOwn)
      exact Or.inl (joined (List.mem_append_right _ List.mem_cons_self))

/-- What the groups of a snapshot hold. -/
theorem gathered_groupSnapshot (fixed : FixedAnswers) {snapshot : List Member} {timeout : Nat}
    (yields : (groupSnapshot snapshot timeout autoOnly).Yields record groups) :
    Gathered fixed (WorkingSet.ofList snapshot) autoOnly snapshot record groups := by
  refine foldlM_induction ?_ (fun done member before state round next gathered goes => ?_) yields
  · exact ⟨fun _ _ there => absurd there List.not_mem_nil, fun _ there => absurd there List.not_mem_nil,
      fun _ there => absurd there List.not_mem_nil⟩
  · unfold gather at goes
    cases found : (WorkingSet.ofList snapshot).get? member.name with
    | none =>
      rw [found] at goes
      obtain ⟨rfl, rfl⟩ := goes
      refine gathered.pass fun component stands => ?_
      rw [found] at stands
      cases stands
    | some component =>
      rw [found] at goes
      obtain ⟨asked, wanted, rest, asks, goesOn, rfl⟩ := yields_bind.mp goes
      obtain ⟨taken, declined⟩ := Component.told_of_yields asks
      cases wanted with
      | true =>
        obtain ⟨phased, phase, _, itsPhase, ⟨rfl, rfl⟩, rfl⟩ := yields_bind.mp goesOn
        rw [List.append_nil]
        refine gathered.join found ((taken rfl).mono (List.subset_append_left _ _)) fun kept => ?_
        exact Component.phaseOf_of_yields itsPhase fun exchange there =>
          kept exchange (List.mem_append_right _ there)
      | false =>
        obtain ⟨rfl, rfl⟩ := goesOn
        rw [List.append_nil]
        refine gathered.pass fun other stands => ?_
        exact Option.some.inj (found.symm.trans stands) ▸ declined rfl

end

/-- Where groups stand in an order and each name has the rank of its group, the names of their members
are in that order. -/
theorem Group.Arranged.pairwise {follows : Int → Int → Prop} (same : ∀ phase, follows phase phase)
    {rank : String → Int} {record : List Exchange} {groups : List Group} {names : List String}
    (arranged : Group.Arranged record groups names)
    (sorted : groups.Pairwise fun group other => follows group.phase other.phase)
    (ranked : ∀ group ∈ groups, ∀ member ∈ group.members, rank member.name = group.phase) :
    names.Pairwise fun name other => follows (rank name) (rank other) := by
  induction arranged with
  | nil => exact .nil
  | @cons group sorting groups names sortedIn rest inductionHypothesis =>
    obtain ⟨before, sorted⟩ := List.pairwise_cons.mp sorted
    have own : ∀ name ∈ sorting.members.map (·.name), rank name = group.phase := by
      intro name there
      obtain ⟨member, inside, rfl⟩ := List.mem_map.mp there
      exact ranked group List.mem_cons_self member (sortedIn.rearranged.members.subset inside)
    have others : ∀ name ∈ names, ∃ other ∈ groups, rank name = other.phase := by
      intro name there
      obtain ⟨member, inside, rfl⟩ := List.mem_map.mp (rest.perm.subset there)
      obtain ⟨other, inGroups, inGroup⟩ := List.mem_flatMap.mp inside
      exact ⟨other, inGroups, ranked other (List.mem_cons_of_mem _ inGroups) member inGroup⟩
    refine List.pairwise_append.mpr ⟨?_, inductionHypothesis sorted fun other there =>
      ranked other (List.mem_cons_of_mem _ there), fun name there other later => ?_⟩
    · exact List.pairwise_of_forall_mem_list fun name there other inside => by
        rw [own name there, own other inside]
        exact same _
    · obtain ⟨last, inGroups, itsRank⟩ := others other later
      rw [own name there, itsRank]
      exact before last inGroups

/-! ### What brings a pass out of the order of phases -/

/-- A component for which a property holds stands under a listed name that leads, through listed names,
to a name of the component. -/
def Draws (edges : String → List String) (snapshot : List Member) (holds : Component → Prop)
    (component : Component) : Prop :=
  ∃ root origin name, (WorkingSet.ofList snapshot).get? root = some origin ∧ holds origin ∧
    (WorkingSet.ofList snapshot).get? name = some component ∧
    TransGen (Leads edges (snapshot.map (·.name))) root name

theorem Draws.mono {edges : String → List String} {snapshot : List Member}
    {holds others : Component → Prop} {component : Component}
    (draws : Draws edges snapshot holds component) (weaker : ∀ origin, holds origin → others origin) :
    Draws edges snapshot others component := by
  obtain ⟨root, origin, name, stands, held, standsName, path⟩ := draws
  exact ⟨root, origin, name, stands, weaker origin held, standsName, path⟩

/-- The phase of what a name of the snapshot stands for. -/
def FixedAnswers.rank (fixed : FixedAnswers) (snapshot : List Member) (name : String) : Int :=
  ((WorkingSet.ofList snapshot).get? name).elim 0 fixed.phaseOf

section

variable {fixed : FixedAnswers} {snapshot : List Member} {edges : String → List String}
  {roots : List String} {follows : Int → Int → Prop} {holds : Component → Prop}
  {first second : Component}

/-- What has its turn before a root, though it does not stand in order with it, was drawn forward by a
root that does. -/
theorem draws_of_precedes (same : ∀ phase, follows phase phase)
    (ordered : roots.Pairwise fun name other =>
      follows (fixed.rank snapshot name) (fixed.rank snapshot other))
    (held : ∀ root ∈ roots, ∃ origin, (WorkingSet.ofList snapshot).get? root = some origin ∧ holds origin)
    {former latter : String} (root : latter ∈ roots)
    (pair : [former, latter].Sublist
      (roots.foldl (Descent.enter edges) { left := WorkingSet.ofList snapshot }).order)
    (standsFirst : (WorkingSet.ofList snapshot).get? former = some first)
    (standsSecond : (WorkingSet.ofList snapshot).get? latter = some second)
    (apart : ¬ follows (fixed.phaseOf first) (fixed.phaseOf second)) :
    Draws edges snapshot
      (fun origin => holds origin ∧ follows (fixed.phaseOf origin) (fixed.phaseOf second)) first := by
  obtain ⟨front, back, place⟩ := List.append_of_mem root
  obtain ⟨source, there, path⟩ := Descent.exists_root_of_precedes
    (WorkingSet.distinct_ofList snapshot) place (WorkingSet.mem_names_of_get? standsSecond) pair
  have inRoots : source ∈ roots := by
    rw [place, List.append_cons]
    exact List.mem_append_left _ there
  obtain ⟨origin, stands, itsOwn⟩ := held source inRoots
  have inOrder : follows (fixed.phaseOf origin) (fixed.phaseOf second) := by
    rcases List.mem_append.mp there with early | itself
    · rw [place] at ordered
      have before := (List.pairwise_append.mp ordered).2.2 source early latter List.mem_cons_self
      rwa [FixedAnswers.rank, FixedAnswers.rank, stands, standsSecond] at before
    · rw [List.mem_singleton.mp itself, standsSecond] at stands
      rw [← Option.some.inj stands]
      exact same _
  rw [leads_congr (WorkingSet.mem_names_ofList snapshot)] at path
  rcases reflTransGen_iff_eq_or_transGen.mp path with rfl | path
  · rw [standsFirst] at stands
    rw [← Option.some.inj stands] at inOrder
    exact absurd inOrder apart
  · exact ⟨source, origin, former, stands, ⟨itsOwn, inOrder⟩, standsFirst, path⟩

/-- Components in the order of turns have turns in their order. -/
theorem exists_turns_of_pair {turns : List Turn} {components : List Component}
    (inside : components.Sublist (turns.map (·.component)))
    (pair : [first, second].Sublist components) :
    ∃ former latter, [former.name, latter.name].Sublist (turns.map (·.name)) ∧ former ∈ turns ∧
      latter ∈ turns ∧ former.component = first ∧ latter.component = second := by
  obtain ⟨chosen, within, same⟩ := List.sublist_map_iff.mp (pair.trans inside)
  obtain ⟨former, rest, rfl, itsFirst, others⟩ := List.map_eq_cons_iff.mp same.symm
  obtain ⟨latter, none, rfl, itsSecond, ended⟩ := List.map_eq_cons_iff.mp others
  rw [List.map_eq_nil_iff.mp ended] at within
  exact ⟨former, latter, within.map _, within.subset List.mem_cons_self,
    within.subset (List.mem_cons_of_mem _ List.mem_cons_self), itsFirst, itsSecond⟩

/-- Of two different entries of a list, one comes before the other. -/
theorem pair_sublist_or {Entry : Type} {entries : List Entry} {entry other : Entry}
    (there : entry ∈ entries) (otherThere : other ∈ entries) (different : entry ≠ other) :
    [entry, other].Sublist entries ∨ [other, entry].Sublist entries := by
  obtain ⟨front, back, rfl⟩ := List.append_of_mem there
  rcases List.mem_append.mp otherThere with early | late
  · exact Or.inr (pair_sublist_iff.mpr ⟨front, entry :: back, rfl, early, List.mem_cons_self⟩)
  · refine Or.inl (pair_sublist_iff.mpr ⟨front ++ [entry], back, by rw [List.append_assoc]; rfl,
      List.mem_append_right _ List.mem_cons_self, ?_⟩)
    exact (List.mem_cons.mp late).resolve_left different.symm

end

/-! ### Start passes -/

section

variable {fixed : FixedAnswers} {snapshot : List Member} {timeout : Nat} {record : List Exchange}
  {first second : Component}

theorem rank_of_gathered {autoOnly : Bool} {gathering : List Exchange} {groups : List Group}
    (gathers : (groupSnapshot snapshot timeout autoOnly).Yields gathering groups)
    (kept : ∀ exchange ∈ gathering, exchange.KeepsPhases fixed.phase) :
    ∀ group ∈ groups, ∀ member ∈ group.members, fixed.rank snapshot member.name = group.phase := by
  intro group there member inside
  rw [FixedAnswers.rank, get?_of_groupSnapshot gathers group there member inside]
  exact (gathered_groupSnapshot fixed gathers).phases kept group there member inside

/-- If a start pass starts a component before one of an earlier phase, then some component drew it
forward that the pass was told to start and whose phase is not later than that one, or that one had said
that it does not start by itself. -/
theorem draws_of_startPass {autoOnly : Bool} {outcome : Except LifecycleError Unit}
    (yields : (startPass snapshot timeout autoOnly).Yields record outcome)
    (dependencies : ∀ exchange ∈ record, exchange.KeepsDependencies fixed.dependencies)
    (phases : ∀ exchange ∈ record, exchange.KeepsPhases fixed.phase)
    (later : fixed.phaseOf second < fixed.phaseOf first)
    (pair : [first, second].Sublist (startsIn record)) :
    second.HasDeclined autoOnly record ∨
      Draws fixed.dependencies snapshot (fun origin => origin.IsTaken autoOnly record ∧
        fixed.phaseOf origin ≤ fixed.phaseOf second) first := by
  obtain ⟨keeps, single, -⟩ := keepsTo_startPass yields
  obtain ⟨gathering, groups, started, starting, roots, rfl, gathers, arranged, -, accord⟩ :=
    accord_startPass dependencies yields
  obtain ⟨former, latter, names, formerThere, latterThere, rfl, rfl⟩ :=
    exists_turns_of_pair (startsIn_sublist keeps.calls single) pair
  have listed : ∀ turn ∈ turnsIn (gathering ++ started),
      (WorkingSet.ofList snapshot).get? turn.name = some turn.component :=
    fun turn there => accord.listed turn (List.mem_reverse.mp there)
  have gathered := gathered_groupSnapshot fixed gathers
  have ordered := arranged.pairwise le_refl
    ((ascending_groupSnapshot gathers).imp fun lower => le_of_lt lower)
    (rank_of_gathered gathers fun exchange there => phases exchange (List.mem_append_left _ there))
  have held : ∀ root ∈ roots, ∃ origin, (WorkingSet.ofList snapshot).get? root = some origin ∧
      origin.IsTaken autoOnly (gathering ++ started) := by
    intro root there
    obtain ⟨member, inside, rfl⟩ := List.mem_map.mp (arranged.perm.subset there)
    obtain ⟨group, inGroups, inGroup⟩ := List.mem_flatMap.mp inside
    exact ⟨member.component, get?_of_groupSnapshot gathers group inGroups member inGroup,
      (gathered.taken group inGroups member inGroup).mono (List.subset_append_left _ _)⟩
  have stands := listed latter latterThere
  obtain ⟨member, inSnapshot, itsName⟩ := List.mem_map.mp
    ((WorkingSet.mem_names_ofList snapshot latter.name).mp (WorkingSet.mem_names_of_get? stands))
  rcases gathered.all member inSnapshot latter.component (itsName ▸ stands) with grouped | declined
  · have root : latter.name ∈ roots :=
      arranged.perm.symm.subset (List.mem_map.mpr ⟨_, grouped, itsName⟩)
    exact Or.inr (draws_of_precedes le_refl ordered held root
      (names.trans accord.names.sublist) (listed former formerThere) stands (not_le.mpr later))
  · exact Or.inl (declined.mono (List.subset_append_left _ _))

/-- Where which components start by themselves is fixed, none that is started had declined. -/
theorem draws_of_startPass_of_autos {autoOnly : Bool} {outcome : Except LifecycleError Unit}
    (yields : (startPass snapshot timeout autoOnly).Yields record outcome)
    (dependencies : ∀ exchange ∈ record, exchange.KeepsDependencies fixed.dependencies)
    (phases : ∀ exchange ∈ record, exchange.KeepsPhases fixed.phase)
    (autos : ∀ exchange ∈ record, exchange.KeepsAutos fixed.auto)
    (later : fixed.phaseOf second < fixed.phaseOf first)
    (pair : [first, second].Sublist (startsIn record)) :
    Draws fixed.dependencies snapshot (fun origin => origin.IsMeant fixed.auto autoOnly ∧
      fixed.phaseOf origin ≤ fixed.phaseOf second) first := by
  rcases draws_of_startPass yields dependencies phases later pair with declined | draws
  · obtain ⟨automatic, smart, meanwhile, instant, there⟩ := declined
    obtain ⟨failure, taken, -⟩ := carried_callsTaken.startPass yields
    obtain ⟨call, called, itself⟩ := List.mem_map.mp
      (pair.subset (List.mem_cons_of_mem _ List.mem_cons_self))
    obtain ⟨component, reason, rfl, its, -⟩ := taken call (List.mem_filter.mp called).1
    obtain rfl : component = second := itself
    have meant := its.isMeant autos automatic smart
    exact Bool.noConfusion ((autos _ there).trans meant)
  · exact draws.mono fun origin held => ⟨held.1.isMeant autos, held.2⟩

/-! ### Stop passes -/

/-- If a stop pass stops a component before one of a later phase, then some component whose phase is not
earlier than that one drew it forward. -/
theorem draws_of_stopPass {report : StopReport}
    (yields : (stopPass snapshot timeout).Yields record report)
    (dependents : ∀ exchange ∈ record, exchange.KeepsDependents fixed.dependents)
    (phases : ∀ exchange ∈ record, exchange.KeepsPhases fixed.phase)
    (earlier : fixed.phaseOf first < fixed.phaseOf second)
    (pair : [first, second].Sublist (stopsIn record)) :
    Draws fixed.dependents snapshot (fun origin => fixed.phaseOf second ≤ fixed.phaseOf origin)
      first := by
  obtain ⟨history, rfl, rfl⟩ := exists_stopHistory yields
  have inside : (stopsIn history.record).Sublist ((turnsIn history.record).map (·.component)) := by
    rw [history.stopsIn_record]
    exact List.filter_sublist.map _
  obtain ⟨former, latter, names, formerThere, latterThere, rfl, rfl⟩ :=
    exists_turns_of_pair inside pair
  rw [history.names_turnsIn dependents] at names
  have arranged := history.arranged
  have ranked := rank_of_gathered history.gathered fun exchange there =>
    phases exchange (List.mem_append_left _ there)
  have descending : history.groups.reverse.Pairwise fun group other => other.phase ≤ group.phase :=
    List.pairwise_reverse.mpr ((ascending_groupSnapshot history.gathered).imp fun lower => le_of_lt lower)
  have ordered : history.roots.Pairwise fun name other =>
      fixed.rank snapshot other ≤ fixed.rank snapshot name :=
    @Group.Arranged.pairwise (fun phase other => other ≤ phase) le_refl _ _ _ _ arranged descending
      fun group there => ranked group (List.mem_reverse.mp there)
  have held : ∀ root ∈ history.roots,
      ∃ origin, (WorkingSet.ofList snapshot).get? root = some origin ∧ True := by
    intro root there
    obtain ⟨member, inGroups, rfl⟩ := List.mem_map.mp (arranged.perm.subset there)
    obtain ⟨group, grouped, inGroup⟩ := List.mem_flatMap.mp inGroups
    exact ⟨member.component, get?_of_groupSnapshot history.gathered group
      (List.mem_reverse.mp grouped) member inGroup, trivial⟩
  have stands := (history.turn_of_mem latterThere).1
  obtain ⟨listed, inSnapshot, itsName⟩ := List.mem_map.mp
    ((WorkingSet.mem_names_ofList snapshot latter.name).mp (WorkingSet.mem_names_of_get? stands))
  have root : latter.name ∈ history.roots := by
    rw [← itsName]
    refine arranged.perm.symm.subset (List.mem_map.mpr ⟨standing snapshot listed, ?_, rfl⟩)
    have all := (flatMap_members_groupSnapshot history.gathered).symm.subset
      (List.mem_map_of_mem inSnapshot)
    obtain ⟨group, grouped, inGroup⟩ := List.mem_flatMap.mp all
    exact List.mem_flatMap.mpr ⟨group, List.mem_reverse.mpr grouped, inGroup⟩
  have draws := @draws_of_precedes fixed snapshot fixed.dependents _ (fun phase other => other ≤ phase)
    _ _ _ le_refl ordered held _ _ root names (history.turn_of_mem formerThere).1 stands
    (not_le.mpr earlier)
  exact draws.mono fun origin its => its.2

end

/-! ### Both passes -/

/-- Only dependencies bring a pass out of the order of the phases.

The edges and the phases are fixed; there may be circles and strangers. If a start pass calls a component
before one of an earlier phase, then some component leads to it, through listed names, that the pass was
told to start and whose phase is not later than that earlier phase. The one exception is that the
component of the earlier phase had said at first that it does not start by itself; where these answers
are fixed as well, there is none. A stop pass calls a component before one of a later phase only if it
depends, through listed names, on a component whose phase is not earlier than that later phase. So two
components that are not linked in this way start in ascending and stop in descending order of their
phases. -/
theorem passes_leave_phase_order_only_where_drawn (fixed : FixedAnswers) (snapshot : List Member)
    (timeout : Nat) :
    (∀ autoOnly record outcome, (startPass snapshot timeout autoOnly).Yields record outcome →
      (∀ exchange ∈ record, exchange.KeepsDependencies fixed.dependencies) →
      (∀ exchange ∈ record, exchange.KeepsPhases fixed.phase) →
      ∀ first second, fixed.phaseOf second < fixed.phaseOf first →
        ([first, second].Sublist (startsIn record) →
          second.HasDeclined autoOnly record ∨
            Draws fixed.dependencies snapshot (fun origin => origin.IsTaken autoOnly record ∧
              fixed.phaseOf origin ≤ fixed.phaseOf second) first) ∧
        ((∀ exchange ∈ record, exchange.KeepsAutos fixed.auto) →
          ([first, second].Sublist (startsIn record) →
            Draws fixed.dependencies snapshot (fun origin => origin.IsMeant fixed.auto autoOnly ∧
              fixed.phaseOf origin ≤ fixed.phaseOf second) first) ∧
          (first ∈ startsIn record → second ∈ startsIn record →
            ¬ Draws fixed.dependencies snapshot (fun origin => origin.IsMeant fixed.auto autoOnly ∧
              fixed.phaseOf origin ≤ fixed.phaseOf second) first →
            [second, first].Sublist (startsIn record)))) ∧
    (∀ record report, (stopPass snapshot timeout).Yields record report →
      (∀ exchange ∈ record, exchange.KeepsDependents fixed.dependents) →
      (∀ exchange ∈ record, exchange.KeepsPhases fixed.phase) →
      ∀ first second, fixed.phaseOf first < fixed.phaseOf second →
        ([first, second].Sublist (stopsIn record) →
          Draws fixed.dependents snapshot
            (fun origin => fixed.phaseOf second ≤ fixed.phaseOf origin) first) ∧
        (first ∈ stopsIn record → second ∈ stopsIn record →
          ¬ Draws fixed.dependents snapshot
            (fun origin => fixed.phaseOf second ≤ fixed.phaseOf origin) first →
          [second, first].Sublist (stopsIn record))) := by
  refine ⟨fun autoOnly record outcome yields dependencies phases first second later =>
    ⟨draws_of_startPass yields dependencies phases later, fun autos => ?_⟩,
    fun record report yields dependents phases first second earlier => ?_⟩
  · have drawn := @draws_of_startPass_of_autos _ _ _ _ _ _ _ _ yields dependencies phases autos later
    refine ⟨drawn, fun firstThere secondThere unlinked => ?_⟩
    have different : first ≠ second := fun same => lt_irrefl _ (same ▸ later)
    exact (pair_sublist_or firstThere secondThere different).resolve_left fun pair =>
      unlinked (drawn pair)
  · have drawn := @draws_of_stopPass _ _ _ _ _ _ _ yields dependents phases earlier
    refine ⟨drawn, fun firstThere secondThere unlinked => ?_⟩
    have different : first ≠ second := fun same => lt_irrefl _ (same ▸ earlier)
    exact (pair_sublist_or firstThere secondThere different).resolve_left fun pair =>
      unlinked (drawn pair)

/-- A gate that depends on a yard of a later phase through a hall, and ground between their phases. -/
def yardSnapshot : List Member :=
  [⟨"ground", ⟨"ground", .phased⟩⟩, ⟨"yard", ⟨"yard", .phased⟩⟩, ⟨"hall", ⟨"hall", .plain⟩⟩,
    ⟨"gate", ⟨"gate", .smart⟩⟩]

def yardAnswers : FixedAnswers where
  dependencies name := if name = "gate" then ["hall"] else if name = "hall" then ["yard"] else []
  dependents name := if name = "yard" then ["hall"] else if name = "hall" then ["gate"] else []
  phase component := if component.key = "yard" then 5 else if component.key = "ground" then 1 else -1
  auto component := component.key ≠ "hall"

/-- The record of a pass over these while some of them run. -/
def yardRecord {Value : Type} (running : Component → Bool) (pass : Pass Value) : List Exchange :=
  pass.recordOf (yardAnswers.answers fun _ => none) (fun _ => []) (fun _ => 0) running

/-- The record of a start while the hall runs. -/
def yardStarts : List Exchange :=
  yardRecord (·.key = "hall") (startPass yardSnapshot 100 true)

/-- The record of a stop while everything runs. -/
def yardStops : List Exchange :=
  yardRecord (fun _ => true) (stopPass yardSnapshot 100)

theorem gate_draws_yard_and_yard_draws_gate :
    ([⟨"yard", .phased⟩, ⟨"ground", .phased⟩].Sublist (startsIn yardStarts) ∧
      Draws yardAnswers.dependencies yardSnapshot (fun origin =>
        origin.IsMeant yardAnswers.auto true ∧ yardAnswers.phaseOf origin ≤ 1) ⟨"yard", .phased⟩) ∧
    ([⟨"gate", .smart⟩, ⟨"ground", .phased⟩].Sublist (stopsIn yardStops) ∧
      Draws yardAnswers.dependents yardSnapshot (fun origin => 1 ≤ yardAnswers.phaseOf origin)
        ⟨"gate", .smart⟩) := by
  have agrees : ∀ {Value : Type} (running : Component → Bool) (pass : Pass Value),
      ∀ exchange ∈ yardRecord running pass, exchange.Agrees yardAnswers :=
    fun running pass => yardAnswers.agrees_recordOf _ pass running
  have yields : ∀ {Value : Type} (running : Component → Bool) (pass : Pass Value),
      ∃ value, pass.Yields (yardRecord running pass) value :=
    fun running pass => ⟨_, yields_recordOf _ _ _ pass running⟩
  obtain ⟨outcome, started⟩ := yields (·.key = "hall") (startPass yardSnapshot 100 true)
  obtain ⟨report, stopped⟩ := yields (fun _ => true) (stopPass yardSnapshot 100)
  have starts : [⟨"yard", .phased⟩, ⟨"ground", .phased⟩].Sublist (startsIn yardStarts) := by
    decide +kernel
  have stops : [⟨"gate", .smart⟩, ⟨"ground", .phased⟩].Sublist (stopsIn yardStops) := by
    decide +kernel
  obtain ⟨draws, draw⟩ := passes_leave_phase_order_only_where_drawn yardAnswers yardSnapshot 100
  obtain ⟨-, drawsYard⟩ := draws true yardStarts outcome started
    (fun exchange there => (agrees _ _ exchange there).keeps.1)
    (fun exchange there => (agrees _ _ exchange there).keeps.2.2.1)
    ⟨"yard", .phased⟩ ⟨"ground", .phased⟩ (by decide)
  obtain ⟨drawsGate, -⟩ := draw yardStops report stopped
    (fun exchange there => (agrees _ _ exchange there).keeps.2.1)
    (fun exchange there => (agrees _ _ exchange there).keeps.2.2.1)
    ⟨"gate", .smart⟩ ⟨"ground", .phased⟩ (by decide)
  exact ⟨⟨starts, (drawsYard fun exchange there => (agrees _ _ exchange there).keeps.2.2.2).1 starts⟩,
    stops, drawsGate stops⟩

end PhasedLifecycle
