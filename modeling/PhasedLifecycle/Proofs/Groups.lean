/-
This file says what the groups of a snapshot hold. Whatever phases components answer, and however
often they change their answers, the groups of a pass over all components hold each listed name as
often as it is listed, with the component it stands for, and no group is empty. Sorting a group
changes the order of its members only.
-/

import Mathlib.Data.List.Permutation
import PhasedLifecycle.Proofs.Turns
import PhasedLifecycle.Proofs.WorkingSet

namespace PhasedLifecycle

open Pass

/-! ### What gathering and sorting ask -/

theorem Component.asks_phase {kind : Request → Prop} (allowed : ∀ component, kind (.phase component))
    (component : Component) : component.phase.Asks kind := by
  unfold Component.phase
  cases component.capability with
  | plain => exact asks_pure kind 0
  | phased => exact asks_ask (allowed component)
  | smart => exact asks_ask (allowed component)

theorem Component.asks_isWanted {kind : Request → Prop} {autoOnly : Bool}
    (allowed : autoOnly = true → ∀ component, kind (.isAutoStartup component))
    (component : Component) : (component.isWanted autoOnly).Asks kind := by
  unfold Component.isWanted Component.isAutoStartup
  cases autoOnly with
  | false => exact asks_pure kind true
  | true =>
    cases component.capability with
    | plain => exact asks_pure kind true
    | phased => exact asks_pure kind true
    | smart => exact asks_ask (allowed rfl component)

theorem Group.asks_phases {kind : Request → Prop} (allowed : ∀ component, kind (.phase component))
    (group : Group) : group.phases.Asks kind := by
  unfold Group.phases
  induction group.members with
  | nil => exact asks_pure _ _
  | cons member members inductionHypothesis =>
    rw [List.mapM_cons]
    exact asks_bind (asks_bind (Component.asks_phase allowed _) fun _ => asks_pure _ _)
      fun _ => asks_bind inductionHypothesis fun _ => asks_pure _ _

theorem Group.asks_ascending {kind : Request → Prop} (allowed : ∀ component, kind (.phase component))
    (group : Group) : group.ascending.Asks kind :=
  asks_bind (group.asks_phases allowed) fun _ => asks_pure _ _

theorem Group.asks_descending {kind : Request → Prop} (allowed : ∀ component, kind (.phase component))
    (group : Group) : group.descending.Asks kind :=
  asks_bind (group.asks_phases allowed) fun _ => asks_pure _ _

/-- Gathering asks for phases, and in an auto-startup pass which components start by themselves. -/
theorem asks_gathering {kind : Request → Prop} {autoOnly : Bool}
    (phases : ∀ component, kind (.phase component))
    (autos : autoOnly = true → ∀ component, kind (.isAutoStartup component))
    (snapshot : List Member) (timeout : Nat) :
    (groupSnapshot snapshot timeout autoOnly).Asks kind := by
  refine asks_foldlM (fun groups listed => ?_) _ _
  unfold gather
  cases (WorkingSet.ofList snapshot).get? listed.name with
  | none => exact asks_pure _ _
  | some component =>
    refine asks_bind (Component.asks_isWanted autos _) fun wanted => ?_
    cases wanted with
    | false => exact asks_pure _ _
    | true => exact asks_bind (Component.asks_phase phases _) fun _ => asks_pure _ _

theorem asks_groupSnapshot (snapshot : List Member) (timeout : Nat) (autoOnly : Bool) :
    (groupSnapshot snapshot timeout autoOnly).Asks Request.isOutset :=
  asks_gathering (fun _ => trivial) (fun _ _ => trivial) snapshot timeout

/-! ### Sorted groups -/

theorem Group.yields_phases {group : Group} {record : List Exchange} {phases : List (Int × Member)}
    (yields : group.phases.Yields record phases) : phases.map (·.2) = group.members := by
  obtain ⟨phase, timeout, autoOnly, members⟩ := group
  unfold Group.phases at yields
  dsimp only at yields ⊢
  induction members generalizing record phases with
  | nil =>
    obtain ⟨-, rfl⟩ := yields
    rfl
  | cons member members inductionHypothesis =>
    rw [List.mapM_cons, yields_bind] at yields
    obtain ⟨_, _, _, asked, yields, -⟩ := yields
    obtain ⟨_, _, _, -, ⟨-, rfl⟩, -⟩ := yields_bind.mp asked
    obtain ⟨_, others, _, rest, ⟨-, rfl⟩, -⟩ := yields_bind.mp yields
    rw [List.map_cons, inductionHypothesis rest]

/-- A group and the group with its members in another order. -/
structure Group.Rearranged (group sorted : Group) : Prop where
  phase : sorted.phase = group.phase
  timeout : sorted.timeout = group.timeout
  autoOnly : sorted.autoOnly = group.autoOnly
  members : sorted.members.Perm group.members

theorem Group.rearranged_of_phases {group : Group} {phases : List (Int × Member)}
    (all : phases.map (·.2) = group.members) (order : Int × Member → Int × Member → Bool) :
    group.Rearranged { group with members := (phases.mergeSort order).map (·.2) } where
  phase := rfl
  timeout := rfl
  autoOnly := rfl
  members := by
    rw [← all]
    exact (List.mergeSort_perm phases order).map _

theorem Group.yields_ascending {group sorted : Group} {record : List Exchange}
    (yields : group.ascending.Yields record sorted) : group.Rearranged sorted := by
  obtain ⟨_, phases, _, asked, ⟨-, rfl⟩, -⟩ := yields_bind.mp yields
  exact rearranged_of_phases (yields_phases asked) _

theorem Group.yields_descending {group sorted : Group} {record : List Exchange}
    (yields : group.descending.Yields record sorted) : group.Rearranged sorted := by
  obtain ⟨_, phases, _, asked, ⟨-, rfl⟩, -⟩ := yields_bind.mp yields
  exact rearranged_of_phases (yields_phases asked) _

/-- A group stands as it was, or as questions of the record sorted it. -/
inductive Group.SortedIn (record : List Exchange) (group : Group) : Group → Prop
  | untouched : SortedIn record group group
  | ascending {sorting : List Exchange} {sorted : Group} (inside : sorting ⊆ record)
    (sorts : group.ascending.Yields sorting sorted) : SortedIn record group sorted
  | descending {sorting : List Exchange} {sorted : Group} (inside : sorting ⊆ record)
    (sorts : group.descending.Yields sorting sorted) : SortedIn record group sorted

theorem Group.SortedIn.rearranged {record : List Exchange} {group sorted : Group}
    (sortedIn : group.SortedIn record sorted) : group.Rearranged sorted := by
  cases sortedIn with
  | untouched => exact ⟨rfl, rfl, rfl, List.Perm.refl _⟩
  | ascending inside sorts => exact yields_ascending sorts
  | descending inside sorts => exact yields_descending sorts

theorem Group.SortedIn.mono {first last : List Exchange} {group sorted : Group}
    (sortedIn : group.SortedIn first sorted) (within : first ⊆ last) : group.SortedIn last sorted := by
  cases sortedIn with
  | untouched => exact .untouched
  | ascending inside sorts => exact .ascending (List.Subset.trans inside within) sorts
  | descending inside sorts => exact .descending (List.Subset.trans inside within) sorts

/-- Names are those of the members of groups, one group after the other, each as it stands sorted. -/
inductive Group.Arranged (record : List Exchange) : List Group → List String → Prop
  | nil : Arranged record [] []
  | cons {group sorted : Group} {groups : List Group} {names : List String}
    (sortedIn : group.SortedIn record sorted) (rest : Arranged record groups names) :
    Arranged record (group :: groups) (sorted.members.map (·.name) ++ names)

theorem Group.Arranged.perm {record : List Exchange} {groups : List Group} {names : List String}
    (arranged : Group.Arranged record groups names) :
    names.Perm ((groups.flatMap (·.members)).map (·.name)) := by
  induction arranged with
  | nil => exact List.Perm.nil
  | cons sortedIn rest inductionHypothesis =>
    rw [List.flatMap_cons, List.map_append]
    exact (sortedIn.rearranged.members.map _).append inductionHypothesis

theorem Group.Arranged.mono {first last : List Exchange} {groups : List Group} {names : List String}
    (arranged : Group.Arranged first groups names) (within : first ⊆ last) :
    Group.Arranged last groups names := by
  induction arranged with
  | nil => exact .nil
  | cons sortedIn rest inductionHypothesis => exact .cons (sortedIn.mono within) inductionHypothesis

/-! ### The members of all groups -/

/-- What a listed member stands for: its name with the last component listed under it. -/
def standing (snapshot : List Member) (listed : Member) : Member :=
  { listed with component := ((WorkingSet.ofList snapshot).get? listed.name).getD listed.component }

theorem get?_ofList_standing {snapshot : List Member} {listed : Member} (member : listed ∈ snapshot) :
    (WorkingSet.ofList snapshot).get? (standing snapshot listed).name =
      some (standing snapshot listed).component := by
  obtain ⟨component, found⟩ := WorkingSet.get?_of_mem_names
    ((WorkingSet.mem_names_ofList snapshot listed.name).mpr (List.mem_map_of_mem member))
  show (WorkingSet.ofList snapshot).get? listed.name =
    some (((WorkingSet.ofList snapshot).get? listed.name).getD listed.component)
  rw [found, Option.getD_some]

theorem flatMap_members_addToGroups (empty : Group) (bare : empty.members = []) (member : Member)
    (groups : List Group) :
    ((addToGroups empty member groups).flatMap (·.members)).Perm
      (groups.flatMap (·.members) ++ [member]) := by
  induction groups with
  | nil => simp [addToGroups, Group.add, bare]
  | cons group groups inductionHypothesis =>
    rw [addToGroups]
    split
    · simpa [Group.add, bare] using
        (List.perm_append_singleton member ((group :: groups).flatMap (·.members))).symm
    · split
      · simpa [Group.add] using
          (@List.perm_append_comm _ [member] _).append_left group.members
      · simpa using inductionHypothesis.append_left group.members

theorem forall_addToGroups {holds : Group → Prop} {empty : Group} {member : Member}
    {groups : List Group} (all : ∀ group ∈ groups, holds group) (new : holds (empty.add member))
    (longer : ∀ group ∈ groups, empty.phase = group.phase → holds (group.add member)) :
    ∀ group ∈ addToGroups empty member groups, holds group := by
  induction groups with
  | nil =>
    intro group there
    rw [addToGroups, List.mem_singleton] at there
    rwa [there]
  | cons head groups inductionHypothesis =>
    have rest := inductionHypothesis (fun group there => all group (List.mem_cons_of_mem _ there))
      fun group there => longer group (List.mem_cons_of_mem _ there)
    rw [addToGroups]
    split
    · rintro group (_ | ⟨_, there⟩)
      · exact new
      · exact all group there
    · split
      · rename_i same
        rintro group (_ | ⟨_, there⟩)
        · exact longer head List.mem_cons_self same
        · exact all group (List.mem_cons_of_mem _ there)
      · rintro group (_ | ⟨_, there⟩)
        · exact all head List.mem_cons_self
        · exact rest group there

/-- One step of gathering leaves the groups as they are or adds what the name stands for. -/
theorem yields_gather {set : WorkingSet} {timeout : Nat} {autoOnly : Bool}
    {groups result : List Group} {listed : Member} {record : List Exchange}
    (yields : (gather set timeout autoOnly groups listed).Yields record result) :
    (result = groups ∧ (autoOnly = false → set.get? listed.name = none)) ∨
      ∃ component phase, set.get? listed.name = some component ∧
        result = addToGroups { phase, timeout, autoOnly } { name := listed.name, component }
          groups := by
  unfold gather at yields
  cases found : set.get? listed.name with
  | none =>
    rw [found] at yields
    exact Or.inl ⟨yields.2, fun _ => rfl⟩
  | some component =>
    rw [found] at yields
    obtain ⟨_, wanted, _, asked, yields, -⟩ := yields_bind.mp yields
    cases wanted with
    | true =>
      obtain ⟨_, phase, _, -, ⟨-, rfl⟩, -⟩ := yields_bind.mp yields
      exact Or.inr ⟨component, phase, rfl, rfl⟩
    | false =>
      refine Or.inl ⟨yields.2, fun all => ?_⟩
      subst all
      cases asked.2

/-- What holds of no groups, and is kept when a member joins that its name stands for, holds of the
groups of a snapshot. -/
theorem groupSnapshot_induction {motive : List Group → Prop} {snapshot : List Member} {timeout : Nat}
    {autoOnly : Bool} {groups : List Group} {record : List Exchange} (empty : motive [])
    (joins : ∀ groups phase (member : Member),
      (WorkingSet.ofList snapshot).get? member.name = some member.component → motive groups →
        motive (addToGroups { phase, timeout, autoOnly } member groups))
    (yields : (groupSnapshot snapshot timeout autoOnly).Yields record groups) : motive groups := by
  have kept : ∀ (listed : List Member) (start result : List Group) (record : List Exchange),
      (listed.foldlM (gather (WorkingSet.ofList snapshot) timeout autoOnly) start).Yields record
        result → motive start → motive result := by
    intro listed
    induction listed with
    | nil =>
      rintro start result record ⟨-, rfl⟩ begun
      exact begun
    | cons head rest inductionHypothesis =>
      intro start result record yields begun
      obtain ⟨_, middle, _, first, last, -⟩ := yields_foldlM_cons.mp yields
      refine inductionHypothesis middle result _ last ?_
      rcases yields_gather first with ⟨rfl, -⟩ | ⟨component, phase, stands, rfl⟩
      · exact begun
      · exact joins start phase _ stands begun
  exact kept snapshot [] groups record yields empty

/-- A property of groups that gathering keeps holds of all groups of a snapshot. -/
theorem forall_groupSnapshot {holds : Group → Prop} {snapshot : List Member} {timeout : Nat}
    {autoOnly : Bool} {groups : List Group} {record : List Exchange}
    (new : ∀ phase member, holds (Group.add { phase, timeout, autoOnly } member))
    (longer : ∀ group member, holds group → holds (group.add member))
    (yields : (groupSnapshot snapshot timeout autoOnly).Yields record groups) :
    ∀ group ∈ groups, holds group :=
  groupSnapshot_induction (motive := fun groups => ∀ group ∈ groups, holds group)
    (fun _ there => absurd there List.not_mem_nil)
    (fun _ _ _ _ all => forall_addToGroups all (new _ _) fun group there _ =>
      longer group _ (all group there)) yields

theorem members_ne_nil_of_groupSnapshot {snapshot : List Member} {timeout : Nat} {autoOnly : Bool}
    {groups : List Group} {record : List Exchange}
    (yields : (groupSnapshot snapshot timeout autoOnly).Yields record groups) :
    ∀ group ∈ groups, group.members ≠ [] :=
  forall_groupSnapshot (fun _ _ => by simp [Group.add]) (fun _ _ _ => by simp [Group.add]) yields

theorem settings_of_groupSnapshot {snapshot : List Member} {timeout : Nat} {autoOnly : Bool}
    {groups : List Group} {record : List Exchange}
    (yields : (groupSnapshot snapshot timeout autoOnly).Yields record groups) :
    ∀ group ∈ groups, group.timeout = timeout ∧ group.autoOnly = autoOnly :=
  forall_groupSnapshot (fun _ _ => ⟨rfl, rfl⟩) (fun _ _ same => same) yields

/-- A member of a group is what its name stands for. -/
theorem get?_of_groupSnapshot {snapshot : List Member} {timeout : Nat} {autoOnly : Bool}
    {groups : List Group} {record : List Exchange}
    (yields : (groupSnapshot snapshot timeout autoOnly).Yields record groups) :
    ∀ group ∈ groups, ∀ member ∈ group.members,
      (WorkingSet.ofList snapshot).get? member.name = some member.component := by
  refine groupSnapshot_induction (motive := fun groups => ∀ group ∈ groups, ∀ member ∈ group.members,
      (WorkingSet.ofList snapshot).get? member.name = some member.component)
    (fun _ there => absurd there List.not_mem_nil) (fun groups phase member stands all => ?_) yields
  refine forall_addToGroups all ?_ fun group there _ other inside => ?_
  · intro other inside
    rwa [List.mem_singleton.mp inside]
  · rcases List.mem_append.mp inside with inside | inside
    · exact all group there other inside
    · rwa [List.mem_singleton.mp inside]

theorem ascending_addToGroups {empty : Group} {member : Member} {groups : List Group}
    (ascending : groups.Pairwise fun first second => first.phase < second.phase) :
    (addToGroups empty member groups).Pairwise fun first second => first.phase < second.phase := by
  induction groups with
  | nil => exact List.pairwise_singleton _ _
  | cons group groups inductionHypothesis =>
    obtain ⟨first, rest⟩ := List.pairwise_cons.mp ascending
    rw [addToGroups]
    split
    · rename_i lower
      refine List.pairwise_cons.mpr ⟨fun other there => ?_, ascending⟩
      rcases List.mem_cons.mp there with rfl | there
      · exact lower
      · exact Int.lt_trans lower (first other there)
    · rename_i notLower
      split
      · exact List.pairwise_cons.mpr ⟨first, rest⟩
      · rename_i different
        refine List.pairwise_cons.mpr ⟨forall_addToGroups first ?_ fun other there _ =>
          first other there, inductionHypothesis rest⟩
        show group.phase < empty.phase
        omega

/-- The groups of a snapshot stand in the order of their phases, one for each. -/
theorem ascending_groupSnapshot {snapshot : List Member} {timeout : Nat} {autoOnly : Bool}
    {groups : List Group} {record : List Exchange}
    (yields : (groupSnapshot snapshot timeout autoOnly).Yields record groups) :
    groups.Pairwise fun first second => first.phase < second.phase :=
  groupSnapshot_induction List.Pairwise.nil (fun _ _ _ _ => ascending_addToGroups) yields

/-- The groups of a pass over all components hold what the snapshot lists, each name as often as it
is listed. -/
theorem flatMap_members_groupSnapshot {snapshot : List Member} {timeout : Nat}
    {groups : List Group} {record : List Exchange}
    (yields : (groupSnapshot snapshot timeout false).Yields record groups) :
    (groups.flatMap (·.members)).Perm (snapshot.map (standing snapshot)) := by
  have kept : ∀ (listed : List Member) (start result : List Group) (record : List Exchange),
      (∀ member ∈ listed, member ∈ snapshot) →
      (listed.foldlM (gather (WorkingSet.ofList snapshot) timeout false) start).Yields record
        result →
      (result.flatMap (·.members)).Perm
        (start.flatMap (·.members) ++ listed.map (standing snapshot)) := by
    intro listed
    induction listed with
    | nil =>
      rintro start result record - ⟨-, rfl⟩
      simp
    | cons head rest inductionHypothesis =>
      intro start result record inside yields
      obtain ⟨_, middle, _, first, last, -⟩ := yields_foldlM_cons.mp yields
      have later := inductionHypothesis middle result _
        (fun member there => inside member (List.mem_cons_of_mem _ there)) last
      have found : (WorkingSet.ofList snapshot).get? head.name =
          some (standing snapshot head).component :=
        get?_ofList_standing (inside head List.mem_cons_self)
      have gathered : (middle.flatMap (·.members)).Perm
          (start.flatMap (·.members) ++ [standing snapshot head]) := by
        rcases yields_gather first with ⟨-, absent⟩ | ⟨component, phase, stands, rfl⟩
        · rw [absent rfl] at found
          cases found
        · have same : ({ name := head.name, component } : Member) = standing snapshot head := by
            rw [Option.some.inj (stands.symm.trans found)]
            rfl
          rw [same]
          exact flatMap_members_addToGroups _ rfl _ _
      refine later.trans ?_
      rw [List.map_cons, List.append_cons]
      exact gathered.append_right _
  simpa using kept snapshot [] groups record (fun _ there => there) yields

end PhasedLifecycle
