/-
This file puts the members of a pass in one row. With fixed answers, the groups of a pass hold what the
snapshot lists just as one stable sort by phase would line it up: the phases in their order, and within
one phase each member where it was listed. It makes no difference that the groups are gathered one member
at a time, that they leave out what is not wanted, and that each is sorted again when its turn comes.

A line that is sorted by a key is known by what it holds of each key, so two lines need only be compared
one phase at a time.
-/

import PhasedLifecycle.Proofs.StartPlan

namespace PhasedLifecycle

open Pass

/-! ### Lines sorted by a key -/

section

variable {Entry : Type} {key : Entry → Int}

/-- What is sorted by a key is known by the entries that it holds of each key. -/
theorem eq_of_filter_key {follows : Int → Int → Prop}
    (antisymmetric : ∀ first second, follows first second → follows second first → first = second)
    {line other : List Entry} (sorted : line.Pairwise fun first second => follows (key first) (key second))
    (sortedOther : other.Pairwise fun first second => follows (key first) (key second))
    (same : ∀ value, line.filter (key · = value) = other.filter (key · = value)) : line = other := by
  have members : ∀ {line other : List Entry},
      (∀ value, line.filter (key · = value) = other.filter (key · = value)) → line ⊆ other := by
    intro line other same entry there
    have held : entry ∈ line.filter (key · = key entry) :=
      List.mem_filter.mpr ⟨there, decide_eq_true rfl⟩
    rw [same] at held
    exact (List.mem_filter.mp held).1
  induction line generalizing other with
  | nil => exact (List.subset_nil.mp (members fun value => (same value).symm)).symm
  | cons head line inductionHypothesis =>
    cases other with
    | nil => exact absurd (members same List.mem_cons_self) List.not_mem_nil
    | cons first other =>
      obtain ⟨behind, sorted⟩ := List.pairwise_cons.mp sorted
      obtain ⟨behindFirst, sortedRest⟩ := List.pairwise_cons.mp sortedOther
      have level : key head = key first := by
        rcases List.mem_cons.mp (members (fun value => (same value).symm) List.mem_cons_self) with
          itself | later
        · rw [itself]
        rcases List.mem_cons.mp (members same List.mem_cons_self) with itself | laterOther
        · rw [itself]
        exact antisymmetric _ _ (behind first later) (behindFirst head laterOther)
      have heads := same (key head)
      rw [List.filter_cons_of_pos (by simp), List.filter_cons_of_pos (by simp [level])] at heads
      obtain ⟨itself, tails⟩ := List.cons.inj heads
      rw [← itself]
      refine congrArg (head :: ·) (inductionHypothesis sorted sortedRest fun value => ?_)
      by_cases own : key head = value
      · exact own ▸ tails
      · have others := same value
        rwa [List.filter_cons_of_neg (by simpa using own),
          List.filter_cons_of_neg (by simpa [← level] using own)] at others

/-- Sorting leaves entries of one key as they stand. -/
theorem filter_key_mergeSort {order : Entry → Entry → Bool}
    (transitive : ∀ first second third, order first second = true → order second third = true →
      order first third = true)
    (total : ∀ first second, (order first second || order second first) = true)
    (ties : ∀ first second, key first = key second → order first second = true)
    (line : List Entry) (value : Int) :
    (line.mergeSort order).filter (key · = value) = line.filter (key · = value) := by
  have level : (line.filter (key · = value)).Pairwise fun first second => order first second = true := by
    refine List.pairwise_of_forall_mem_list fun first there second present => ties first second ?_
    rw [of_decide_eq_true (List.mem_filter.mp there).2, of_decide_eq_true (List.mem_filter.mp present).2]
  have inside := (List.sublist_mergeSort transitive total level List.filter_sublist).filter (key · = value)
  rw [List.filter_filter, List.filter_congr fun entry _ => Bool.and_self _] at inside
  exact (inside.eq_of_length ((List.mergeSort_perm line order).filter _).length_eq.symm).symm

end

/-! ### The members of a snapshot in a row -/

namespace FixedAnswers

variable (fixed : FixedAnswers)

/-- What a snapshot lists, each name with the component it stands for, in ascending order of phases. -/
def ascending (snapshot : List Member) : List Member :=
  (snapshot.map (standing snapshot)).mergeSort fun first second =>
    fixed.phaseOf first.component ≤ fixed.phaseOf second.component

/-- What a snapshot lists, each name with the component it stands for, in descending order of phases. -/
def descending (snapshot : List Member) : List Member :=
  (snapshot.map (standing snapshot)).mergeSort fun first second =>
    fixed.phaseOf second.component ≤ fixed.phaseOf first.component

theorem pairwise_ascending (snapshot : List Member) :
    (fixed.ascending snapshot).Pairwise fun first second =>
      fixed.phaseOf first.component ≤ fixed.phaseOf second.component := by
  refine (List.pairwise_mergeSort (fun first second third before after => ?_) (fun first second => ?_)
    _).imp fun before => of_decide_eq_true before
  · exact decide_eq_true (Int.le_trans (of_decide_eq_true before) (of_decide_eq_true after))
  · simpa using Int.le_total _ _

theorem pairwise_descending (snapshot : List Member) :
    (fixed.descending snapshot).Pairwise fun first second =>
      fixed.phaseOf second.component ≤ fixed.phaseOf first.component := by
  refine (List.pairwise_mergeSort (fun first second third before after => ?_) (fun first second => ?_)
    _).imp fun before => of_decide_eq_true before
  · exact decide_eq_true (Int.le_trans (of_decide_eq_true after) (of_decide_eq_true before))
  · simpa using Int.le_total _ _

/-- Within one phase the ascending row keeps the order of the snapshot. -/
theorem filter_ascending (snapshot : List Member) (phase : Int) :
    (fixed.ascending snapshot).filter (fixed.phaseOf ·.component = phase) =
      (snapshot.map (standing snapshot)).filter (fixed.phaseOf ·.component = phase) := by
  refine filter_key_mergeSort (fun first second third before after => ?_) (fun first second => ?_)
    (fun first second level => ?_) _ phase
  · exact decide_eq_true (Int.le_trans (of_decide_eq_true before) (of_decide_eq_true after))
  · simpa using Int.le_total _ _
  · exact decide_eq_true (le_of_eq level)

/-- Within one phase the descending row keeps the order of the snapshot. -/
theorem filter_descending (snapshot : List Member) (phase : Int) :
    (fixed.descending snapshot).filter (fixed.phaseOf ·.component = phase) =
      (snapshot.map (standing snapshot)).filter (fixed.phaseOf ·.component = phase) := by
  refine filter_key_mergeSort (fun first second third before after => ?_) (fun first second => ?_)
    (fun first second level => ?_) _ phase
  · exact decide_eq_true (Int.le_trans (of_decide_eq_true after) (of_decide_eq_true before))
  · simpa using Int.le_total _ _
  · exact decide_eq_true (le_of_eq level.symm)

end FixedAnswers

/-! ### Groups that sort -/

/-- Groups sort some members by their phases: each phase has a group of its own, in ascending order, and
a group holds its members in their order. -/
structure Sorts (fixed : FixedAnswers) (groups : List Group) (members : List Member) : Prop where
  ascending : groups.Pairwise fun first second => first.phase < second.phase
  phases : ∀ group ∈ groups, ∀ member ∈ group.members, fixed.phaseOf member.component = group.phase
  stable : ∀ phase, (groups.flatMap (·.members)).filter (fixed.phaseOf ·.component = phase) =
    members.filter (fixed.phaseOf ·.component = phase)

section

variable {fixed : FixedAnswers} {groups : List Group} {members : List Member}

/-- Groups of other phases hold nothing of a phase. -/
theorem filter_members_eq_nil {phase : Int}
    (phases : ∀ group ∈ groups, ∀ member ∈ group.members, fixed.phaseOf member.component = group.phase)
    (other : ∀ group ∈ groups, group.phase ≠ phase) :
    (groups.flatMap (·.members)).filter (fixed.phaseOf ·.component = phase) = [] := by
  refine List.filter_eq_nil_iff.mpr fun member there same => ?_
  obtain ⟨group, inGroups, inside⟩ := List.mem_flatMap.mp there
  exact other group inGroups ((phases group inGroups member inside).symm.trans (of_decide_eq_true same))

/-- A member that joins the group of its phase comes last in it. -/
theorem filter_members_addToGroups {empty : Group} {member : Member} (bare : empty.members = [])
    (own : fixed.phaseOf member.component = empty.phase)
    (ascending : groups.Pairwise fun first second => first.phase < second.phase)
    (phases : ∀ group ∈ groups, ∀ member ∈ group.members, fixed.phaseOf member.component = group.phase)
    (phase : Int) :
    ((addToGroups empty member groups).flatMap (·.members)).filter (fixed.phaseOf ·.component = phase) =
      (groups.flatMap (·.members)).filter (fixed.phaseOf ·.component = phase) ++
        [member].filter (fixed.phaseOf ·.component = phase) := by
  have moved : ∀ groups : List Group,
      (∀ group ∈ groups, ∀ member ∈ group.members, fixed.phaseOf member.component = group.phase) →
      (∀ group ∈ groups, empty.phase < group.phase) →
      [member].filter (fixed.phaseOf ·.component = phase) ++
          (groups.flatMap (·.members)).filter (fixed.phaseOf ·.component = phase) =
        (groups.flatMap (·.members)).filter (fixed.phaseOf ·.component = phase) ++
          [member].filter (fixed.phaseOf ·.component = phase) := by
    intro groups phases above
    by_cases its : fixed.phaseOf member.component = phase
    · rw [filter_members_eq_nil phases fun group there => by have := above group there; omega,
        List.append_nil, List.nil_append]
    · rw [List.filter_cons_of_neg (by simpa using its), List.filter_nil, List.append_nil,
        List.nil_append]
  induction groups with
  | nil => simp [addToGroups, Group.add, bare]
  | cons group groups inductionHypothesis =>
    obtain ⟨above, rest⟩ := List.pairwise_cons.mp ascending
    have later : ∀ other ∈ groups, ∀ member ∈ other.members,
        fixed.phaseOf member.component = other.phase :=
      fun other there => phases other (List.mem_cons_of_mem _ there)
    rw [addToGroups]
    split
    · rename_i lower
      have first : ((empty.add member :: group :: groups).flatMap (·.members)) =
          [member] ++ (group :: groups).flatMap (·.members) := by
        rw [List.flatMap_cons, Group.add, bare, List.nil_append]
      rw [first, List.filter_append]
      refine moved _ phases fun other there => ?_
      rcases List.mem_cons.mp there with rfl | there
      · exact lower
      · exact Int.lt_trans lower (above other there)
    · split
      · rename_i level
        rw [List.flatMap_cons, List.flatMap_cons, Group.add, List.append_assoc, List.filter_append,
          List.filter_append, List.filter_append, List.append_assoc,
          moved groups later fun other there => level ▸ above other there]
      · rw [List.flatMap_cons, List.flatMap_cons, List.filter_append, List.filter_append,
          inductionHypothesis rest later, List.append_assoc]

theorem Sorts.add (sorts : Sorts fixed groups members) {empty : Group} {member : Member}
    (bare : empty.members = []) (own : fixed.phaseOf member.component = empty.phase) :
    Sorts fixed (addToGroups empty member groups) (members ++ [member]) where
  ascending := ascending_addToGroups sorts.ascending
  phases := by
    refine forall_addToGroups sorts.phases (fun other inside => ?_) fun group there level other inside => ?_
    · rw [Group.add, bare, List.nil_append] at inside
      exact List.mem_singleton.mp inside ▸ own
    · rcases List.mem_append.mp inside with inside | same
      · exact sorts.phases group there other inside
      · exact List.mem_singleton.mp same ▸ own.trans level
  stable := fun phase => by
    rw [filter_members_addToGroups bare own sorts.ascending sorts.phases, sorts.stable,
      List.filter_append]

/-- The groups of a snapshot sort what is wanted of it. -/
theorem sorts_groups (fixed : FixedAnswers) (snapshot : List Member) (timeout : Nat) (autoOnly : Bool) :
    Sorts fixed (fixed.groups snapshot timeout autoOnly)
      ((snapshot.map (standing snapshot)).filter (fixed.wants autoOnly ·.component)) := by
  have all : ∀ (listed : List Member) (groups : List Group) (members : List Member),
      (∀ member ∈ listed, member ∈ snapshot) → Sorts fixed groups members →
      Sorts fixed (listed.foldl (fixed.gather (WorkingSet.ofList snapshot) timeout autoOnly) groups)
        (members ++ (listed.map (standing snapshot)).filter (fixed.wants autoOnly ·.component)) := by
    intro listed
    induction listed with
    | nil =>
      intro groups members _ sorts
      rwa [List.map_nil, List.filter_nil, List.append_nil]
    | cons member listed inductionHypothesis =>
      intro groups members inside sorts
      have found : (WorkingSet.ofList snapshot).get? member.name =
          some (standing snapshot member).component :=
        get?_ofList_standing (inside member List.mem_cons_self)
      have others := fun other there => inside other (List.mem_cons_of_mem _ there)
      rw [List.foldl_cons, List.map_cons, FixedAnswers.gather, found]
      dsimp only
      cases wanted : fixed.wants autoOnly (standing snapshot member).component with
      | true =>
        rw [if_pos rfl, List.filter_cons, if_pos wanted, List.append_cons]
        exact inductionHypothesis _ _ others (sorts.add rfl rfl)
      | false =>
        rw [if_neg Bool.false_ne_true, List.filter_cons, if_neg (by simp [wanted])]
        exact inductionHypothesis _ _ others sorts
  exact all snapshot [] [] (fun _ there => there)
    ⟨List.Pairwise.nil, fun _ there => absurd there List.not_mem_nil, fun _ => rfl⟩

theorem Sorts.pairwise {follows : Int → Int → Prop} (reflexive : ∀ phase, follows phase phase)
    (phases : ∀ group ∈ groups, ∀ member ∈ group.members, fixed.phaseOf member.component = group.phase)
    (sorted : groups.Pairwise fun first second => follows first.phase second.phase) :
    (groups.flatMap (·.members)).Pairwise fun first second =>
      follows (fixed.phaseOf first.component) (fixed.phaseOf second.component) := by
  refine List.pairwise_flatMap.mpr ⟨fun group there => ?_, sorted.imp_of_mem fun {first second} inFirst
    inSecond before member inside other present => ?_⟩
  · refine List.pairwise_of_forall_mem_list fun member inside other present => ?_
    rw [phases group there member inside, phases group there other present]
    exact reflexive _
  · rw [phases first inFirst member inside, phases second inSecond other present]
    exact before

/-- Taking the groups in reverse changes nothing within a phase. -/
theorem Sorts.filter_reverse (sorts : Sorts fixed groups members) (phase : Int) :
    (groups.reverse.flatMap (·.members)).filter (fixed.phaseOf ·.component = phase) =
      members.filter (fixed.phaseOf ·.component = phase) := by
  rw [← sorts.stable phase]
  have ascending := sorts.ascending
  have phases := sorts.phases
  clear sorts
  induction groups with
  | nil => rfl
  | cons group groups inductionHypothesis =>
    obtain ⟨above, rest⟩ := List.pairwise_cons.mp ascending
    have later : ∀ other ∈ groups, ∀ member ∈ other.members,
        fixed.phaseOf member.component = other.phase :=
      fun other there => phases other (List.mem_cons_of_mem _ there)
    rw [List.reverse_cons, List.flatMap_append, List.flatMap_singleton, List.flatMap_cons,
      List.filter_append, List.filter_append, inductionHypothesis rest later]
    by_cases own : group.phase = phase
    · rw [filter_members_eq_nil later fun other there => by have := above other there; omega,
        List.append_nil, List.nil_append]
    · have none : group.members.filter (fixed.phaseOf ·.component = phase) = [] := by
        refine List.filter_eq_nil_iff.mpr fun member inside same => own ?_
        exact (phases group List.mem_cons_self member inside).symm.trans (of_decide_eq_true same)
      rw [none, List.append_nil, List.nil_append]

/-- One after the other, the groups of a snapshot hold what is wanted of the ascending row. -/
theorem members_groups (fixed : FixedAnswers) (snapshot : List Member) (timeout : Nat) (autoOnly : Bool) :
    (fixed.groups snapshot timeout autoOnly).flatMap (·.members) =
      (fixed.ascending snapshot).filter (fixed.wants autoOnly ·.component) := by
  have sorts := sorts_groups fixed snapshot timeout autoOnly
  refine @eq_of_filter_key Member (fixed.phaseOf ·.component) (· ≤ ·)
    (fun _ _ => Int.le_antisymm) _ _ ?_ ((fixed.pairwise_ascending snapshot).filter _) fun phase => ?_
  · exact Sorts.pairwise Int.le_refl sorts.phases (sorts.ascending.imp Int.le_of_lt)
  · rw [sorts.stable, List.filter_comm, List.filter_comm _ _ (fixed.ascending snapshot),
      fixed.filter_ascending]

/-- The last group first, the groups of all components hold the descending row. -/
theorem members_reverse_groups (fixed : FixedAnswers) (snapshot : List Member) (timeout : Nat) :
    (fixed.groups snapshot timeout false).reverse.flatMap (·.members) = fixed.descending snapshot := by
  have sorts := sorts_groups fixed snapshot timeout false
  have everything : (snapshot.map (standing snapshot)).filter (fixed.wants false ·.component) =
      snapshot.map (standing snapshot) := List.filter_eq_self.mpr fun _ _ => rfl
  rw [everything] at sorts
  refine @eq_of_filter_key Member (fixed.phaseOf ·.component) (· ≥ ·)
    (fun _ _ above below => Int.le_antisymm below above) _ _ ?_ (fixed.pairwise_descending snapshot)
    fun phase => ?_
  · exact @Sorts.pairwise fixed _ (· ≥ ·) Int.le_refl
      (fun group there => sorts.phases group (List.mem_reverse.mp there))
      (List.pairwise_reverse.mpr (sorts.ascending.imp Int.le_of_lt))
  · rw [sorts.filter_reverse, fixed.filter_descending]

end

/-! ### Sorting a group again -/

section

variable {fixed : FixedAnswers} {group sorted : Group} {record : List Exchange}

/-- Members that all answer one phase keep their order when they are sorted by it. -/
theorem map_mergeSort_of_level {members : List Member} {phase : Int}
    {order : Int × Member → Int × Member → Bool}
    (ties : ∀ member other, order (phase, member) (phase, other) = true) :
    ((members.map fun member => (phase, member)).mergeSort order).map (·.2) = members := by
  rw [List.mergeSort_of_pairwise, List.map_map]
  · exact List.map_id _
  · refine List.pairwise_of_forall_mem_list fun first there second present => ?_
    obtain ⟨member, -, rfl⟩ := List.mem_map.mp there
    obtain ⟨other, -, rfl⟩ := List.mem_map.mp present
    exact ties member other

/-- A group whose members all stand in one phase is sorted already. -/
theorem Group.SortedIn.eq_of_phases (sortedIn : group.SortedIn record sorted)
    (agrees : ∀ exchange ∈ record, exchange.Agrees fixed)
    (level : ∀ member ∈ group.members, fixed.phaseOf member.component = group.phase) :
    sorted = group := by
  have phases : ∀ {sorting asked : List Exchange} {phases : List (Int × Member)},
      sorting ⊆ record → asked ⊆ sorting → group.phases.Yields asked phases →
      phases = group.members.map fun member => (group.phase, member) := by
    intro sorting asked phases inside within yields
    have settled := yields.settle fixed fun exchange there => agrees exchange (inside (within there))
    rw [fixed.settle_phases] at settled
    rw [settled.2]
    exact List.map_congr_left fun member there => by rw [level member there]
  cases sortedIn with
  | untouched => rfl
  | ascending inside sorts =>
    obtain ⟨asked, answered, rest, asks, ⟨rfl, rfl⟩, rfl⟩ := yields_bind.mp sorts
    rw [phases inside (List.subset_append_left _ _) asks, map_mergeSort_of_level fun _ _ => by simp]
  | descending inside sorts =>
    obtain ⟨asked, answered, rest, asks, ⟨rfl, rfl⟩, rfl⟩ := yields_bind.mp sorts
    rw [phases inside (List.subset_append_left _ _) asks, map_mergeSort_of_level fun _ _ => by simp]

/-- Where each group stands in one phase, sorting the groups again changes nothing. -/
theorem Group.Arranged.names_eq {groups : List Group} {names : List String}
    (arranged : Group.Arranged record groups names)
    (agrees : ∀ exchange ∈ record, exchange.Agrees fixed)
    (level : ∀ group ∈ groups, ∀ member ∈ group.members,
      fixed.phaseOf member.component = group.phase) :
    names = (groups.flatMap (·.members)).map (·.name) := by
  induction arranged with
  | nil => rfl
  | cons sortedIn rest inductionHypothesis =>
    rw [List.flatMap_cons, List.map_append,
      sortedIn.eq_of_phases agrees (level _ List.mem_cons_self),
      inductionHypothesis fun group there => level group (List.mem_cons_of_mem _ there)]

/-- A start pass goes down from what is wanted, in the order of the ascending row. -/
theorem FixedAnswers.roots_eq_ascending (fixed : FixedAnswers) (snapshot : List Member) (autoOnly : Bool) :
    fixed.roots snapshot autoOnly =
      ((fixed.ascending snapshot).filter (fixed.wants autoOnly ·.component)).map (·.name) := by
  have phases := (sorts_groups fixed snapshot 0 autoOnly).phases
  rw [← members_groups fixed snapshot 0 autoOnly, roots, List.map_flatMap]
  refine List.flatMap_congr fun group there => ?_
  have level : (group.members.map fun member => (fixed.phaseOf member.component, member)) =
      group.members.map fun member => (group.phase, member) :=
    List.map_congr_left fun member inside => by rw [phases group there member inside]
  rw [FixedAnswers.sorted, level, map_mergeSort_of_level fun _ _ => by simp]

/-- With fixed answers, gathering ends with the groups of the snapshot. -/
theorem FixedAnswers.groups_of_yields (fixed : FixedAnswers) {snapshot : List Member} {timeout : Nat}
    {autoOnly : Bool} {groups : List Group}
    (yields : (groupSnapshot snapshot timeout autoOnly).Yields record groups)
    (agrees : ∀ exchange ∈ record, exchange.Agrees fixed) :
    groups = fixed.groups snapshot timeout autoOnly := by
  have settled := yields.settle fixed agrees
  rw [fixed.settle_groupSnapshot] at settled
  exact settled.2

end

end PhasedLifecycle
