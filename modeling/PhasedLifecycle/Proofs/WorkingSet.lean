/-
This file gathers the laws of working sets that passes rely on: names stay distinct, taking one
name out touches no other, and the set of a snapshot holds each listed name once, with the last
component listed under it.
-/

import Mathlib.Data.List.Induction
import Mathlib.Data.List.Nodup
import Mathlib.Data.List.Perm.Subperm
import PhasedLifecycle.Pass.WorkingSet

namespace PhasedLifecycle.WorkingSet

/-! ### Names and components -/

/-- No name stands in the set twice. -/
def Distinct (set : WorkingSet) : Prop :=
  set.names.Nodup

theorem contains_iff (set : WorkingSet) (name : String) :
    set.contains name = true ↔ name ∈ set.names := by
  simp [contains, names, List.any_eq_true]

theorem mem_names_of_get? {set : WorkingSet} {name : String} {component : Component}
    (found : set.get? name = some component) : name ∈ set.names := by
  by_contra absent
  rw [(get?_eq_none_iff set name).mpr absent] at found
  cases found

theorem get?_of_mem_names {set : WorkingSet} {name : String} (present : name ∈ set.names) :
    ∃ component, set.get? name = some component := by
  cases found : set.get? name with
  | none => exact absurd present ((get?_eq_none_iff set name).mp found)
  | some component => exact ⟨component, rfl⟩

/-! ### Taking names out -/

/-- The set without some names. -/
def without (set : WorkingSet) (names : List String) : WorkingSet :=
  { members := set.members.filter (·.name ∉ names) }

theorem without_nil (set : WorkingSet) : set.without [] = set := by
  have all : set.members.filter (·.name ∉ ([] : List String)) = set.members :=
    List.filter_eq_self.mpr fun member _ => decide_eq_true List.not_mem_nil
  rw [without, all]

theorem without_without (set : WorkingSet) (first second : List String) :
    (set.without first).without second = set.without (first ++ second) := by
  unfold without
  rw [List.filter_filter]
  refine congrArg WorkingSet.mk (List.filter_congr fun member _ => ?_)
  rw [← Bool.decide_and, decide_eq_decide, List.mem_append, not_or, and_comm]

theorem erase_eq_without (set : WorkingSet) (name : String) : set.erase name = set.without [name] := by
  refine congrArg WorkingSet.mk (List.filter_congr fun member _ => ?_)
  rw [decide_eq_decide, List.mem_singleton]

/-- Only which names are taken out matters, not their order. -/
theorem without_congr (set : WorkingSet) {first second : List String}
    (same : ∀ name, name ∈ first ↔ name ∈ second) : set.without first = set.without second := by
  refine congrArg WorkingSet.mk (List.filter_congr fun member _ => ?_)
  rw [decide_eq_decide, same]

theorem mem_names_without (set : WorkingSet) (taken : List String) (name : String) :
    name ∈ (set.without taken).names ↔ name ∈ set.names ∧ name ∉ taken := by
  simp only [names, without, List.mem_map, List.mem_filter, decide_eq_true_eq]
  constructor
  · rintro ⟨member, ⟨present, kept⟩, rfl⟩
    exact ⟨⟨member, present, rfl⟩, kept⟩
  · rintro ⟨⟨member, present, rfl⟩, kept⟩
    exact ⟨member, ⟨present, kept⟩, rfl⟩

theorem size_without_le (set : WorkingSet) (taken : List String) :
    (set.without taken).size ≤ set.size :=
  List.length_filter_le _ _

theorem get?_without_of_notMem (set : WorkingSet) {taken : List String} {name : String}
    (kept : name ∉ taken) : (set.without taken).get? name = set.get? name := by
  have agree : (fun member : Member =>
      decide (decide (member.name ∉ taken) = true ∧ (member.name == name) = true)) =
      fun member => member.name == name := by
    funext member
    by_cases same : member.name = name
    · simp [same, kept]
    · simp [same]
  unfold get? without
  rw [List.find?_filter, agree]

/-- What is found after names were taken out is none of them, and was there before. -/
theorem get?_without {set : WorkingSet} {taken : List String} {name : String} {component : Component}
    (found : (set.without taken).get? name = some component) :
    name ∉ taken ∧ set.get? name = some component := by
  have kept := ((mem_names_without set taken name).mp (mem_names_of_get? found)).2
  exact ⟨kept, (get?_without_of_notMem set kept).symm.trans found⟩

theorem get?_erase_self (set : WorkingSet) (name : String) :
    (set.erase name).get? name = none :=
  (get?_eq_none_iff _ _).mpr fun present =>
    ((mem_names_erase set name name).mp present).2 rfl

theorem get?_erase_of_ne (set : WorkingSet) {erased name : String} (different : name ≠ erased) :
    (set.erase erased).get? name = set.get? name := by
  rw [erase_eq_without]
  exact get?_without_of_notMem set (mt List.mem_singleton.mp different)

theorem distinct_erase {set : WorkingSet} (distinct : set.Distinct) (name : String) :
    (set.erase name).Distinct :=
  distinct.sublist (List.filter_sublist.map _)

/-! ### Putting a member in -/

theorem names_insert (set : WorkingSet) (member : Member) :
    (set.insert member).names =
      if set.contains member.name then set.names else set.names ++ [member.name] := by
  unfold insert
  split
  · show (set.members.map fun other => if other.name == member.name then member else other).map
      (·.name) = set.members.map (·.name)
    rw [List.map_map]
    refine List.map_congr_left fun other _ => ?_
    by_cases same : other.name = member.name
    · simp [same]
    · simp [same]
  · simp [names]

theorem mem_names_insert (set : WorkingSet) (member : Member) (name : String) :
    name ∈ (set.insert member).names ↔ name ∈ set.names ∨ name = member.name := by
  rw [names_insert]
  split
  · rename_i present
    rw [contains_iff] at present
    constructor
    · exact Or.inl
    · rintro (there | rfl)
      · exact there
      · exact present
  · simp

theorem distinct_insert {set : WorkingSet} (distinct : set.Distinct) (member : Member) :
    (set.insert member).Distinct := by
  unfold Distinct
  rw [names_insert]
  split
  · exact distinct
  · rename_i absent
    rw [contains_iff] at absent
    exact List.nodup_append.mpr ⟨distinct, List.nodup_singleton _, fun name there other same =>
      fun equal => absent (by rw [← List.mem_singleton.mp same, ← equal]; exact there)⟩

theorem get?_insert (set : WorkingSet) (member : Member) (name : String) :
    (set.insert member).get? name =
      if name = member.name then some member.component else set.get? name := by
  unfold insert
  by_cases present : set.contains member.name = true
  · rw [if_pos present]
    unfold get?
    rw [List.find?_map]
    by_cases same : name = member.name
    · subst same
      obtain ⟨found, there, equal⟩ := List.any_eq_true.mp present
      rw [if_pos rfl]
      cases search : set.members.find? ((fun other => other.name == member.name) ∘
          fun other => if other.name == member.name then member else other) with
      | none =>
        have missed := List.find?_eq_none.mp search found there
        simp [eq_of_beq equal] at missed
      | some other =>
        have hit := List.find?_some search
        by_cases named : other.name = member.name
        · simp [named]
        · simp [named] at hit
    · rw [if_neg same]
      have agree : ((fun candidate : Member => candidate.name == name) ∘
          fun candidate => if candidate.name == member.name then member else candidate) =
          fun other => other.name == name := by
        funext other
        by_cases named : other.name = member.name
        · simp [named]
        · simp [named]
      rw [agree]
      cases search : set.members.find? (·.name == name) with
      | none => rfl
      | some other =>
        have hit := List.find?_some search
        have named : other.name = name := eq_of_beq hit
        simp [named, same]
  · rw [if_neg present]
    unfold get?
    rw [List.find?_append]
    by_cases same : name = member.name
    · subst same
      have missing : set.members.find? (·.name == member.name) = none := by
        rw [List.find?_eq_none]
        intro other there named
        exact present (List.any_eq_true.mpr ⟨other, there, named⟩)
      simp [missing]
    · simp [same, Ne.symm same]

/-! ### The set of a snapshot -/

theorem ofList_append_singleton (members : List Member) (member : Member) :
    ofList (members ++ [member]) = (ofList members).insert member := by
  simp [ofList]

theorem distinct_ofList (members : List Member) : (ofList members).Distinct := by
  induction members using List.reverseRecOn with
  | nil => exact List.nodup_nil
  | append_singleton members member inductionHypothesis =>
    rw [ofList_append_singleton]
    exact distinct_insert inductionHypothesis member

theorem mem_names_ofList (members : List Member) (name : String) :
    name ∈ (ofList members).names ↔ name ∈ members.map (·.name) := by
  induction members using List.reverseRecOn with
  | nil => rfl
  | append_singleton members member inductionHypothesis =>
    rw [ofList_append_singleton, mem_names_insert, inductionHypothesis, List.map_append,
      List.mem_append, List.map_singleton, List.mem_singleton]

/-- A name stands for the last component listed under it. -/
theorem get?_ofList (members : List Member) (name : String) :
    (ofList members).get? name = (members.reverse.find? (·.name = name)).map (·.component) := by
  induction members using List.reverseRecOn with
  | nil => rfl
  | append_singleton members member inductionHypothesis =>
    rw [ofList_append_singleton, get?_insert, inductionHypothesis, List.reverse_append,
      List.reverse_singleton, List.singleton_append, List.find?_cons]
    by_cases same : name = member.name
    · simp [same]
    · simp [same, Ne.symm same]

/-- The set of a snapshot has no more names than the snapshot lists. -/
theorem size_ofList_le (members : List Member) : (ofList members).size ≤ members.length := by
  have inside : (ofList members).names ⊆ members.map (·.name) :=
    fun name there => (mem_names_ofList members name).mp there
  have bound := (List.Nodup.subperm (distinct_ofList members) inside).length_le
  rwa [names, List.length_map, List.length_map] at bound

/-- A component of the set was listed under its name. -/
theorem mem_of_get?_ofList {members : List Member} {name : String} {component : Component}
    (found : (ofList members).get? name = some component) :
    { name, component } ∈ members := by
  induction members using List.reverseRecOn with
  | nil => cases found
  | append_singleton members member inductionHypothesis =>
    rw [ofList_append_singleton, get?_insert] at found
    split at found
    · rename_i same
      cases found
      exact List.mem_append_right _ (by rw [same]; exact List.mem_singleton.mpr rfl)
    · exact List.mem_append_left _ (inductionHypothesis found)

/-- Where a snapshot lists each name once, the set holds every listed member. -/
theorem get?_ofList_of_mem {members : List Member} (once : (members.map (·.name)).Nodup)
    {member : Member} (listed : member ∈ members) :
    (ofList members).get? member.name = some member.component := by
  have present : member.name ∈ (ofList members).names :=
    (mem_names_ofList members member.name).mpr (List.mem_map_of_mem listed)
  obtain ⟨component, found⟩ := get?_of_mem_names present
  have same : ({ name := member.name, component } : Member) = member :=
    List.inj_on_of_nodup_map once (mem_of_get?_ofList found) listed rfl
  rw [found, ← same]

end PhasedLifecycle.WorkingSet
