/-
This file says what a registry holds after a number of operations. Dependencies are kept twice, in
two tables that no operation but one writes to, and that one writes to both or to neither. So both
tables tell the same story: the dependencies that were ever recorded, in the order in which they were
recorded first, seen from either end.
-/

import Mathlib.Data.List.Induction
import Mathlib.Data.List.Nodup
import PhasedLifecycle.Registry

namespace PhasedLifecycle

/-! ### Tables of names -/

theorem NameTable.under_push (table : NameTable) (name entry other : String) :
    (table.push name entry).under other =
      if other = name then table.under other ++ [entry] else table.under other := by
  unfold push
  by_cases known : table.rows.any (·.1 == name) = true
  · have agree : ((fun row : String × List String => row.1 == other) ∘
        fun row => if row.1 == name then (row.1, row.2 ++ [entry]) else row) =
        fun row => row.1 == other := by
      funext row
      by_cases same : row.1 = name
      · simp [same]
      · simp [same]
    rw [if_pos known]
    unfold under
    rw [List.find?_map, agree]
    by_cases same : other = name
    · subst same
      obtain ⟨found, there, equal⟩ := List.any_eq_true.mp known
      cases search : table.rows.find? (·.1 == other) with
      | none =>
        have missed := List.find?_eq_none.mp search found there
        exact absurd equal missed
      | some row =>
        have hit := List.find?_some search
        have hit : row.1 = other := eq_of_beq hit
        simp [hit]
    · rw [if_neg same]
      cases search : table.rows.find? (·.1 == other) with
      | none => rfl
      | some row =>
        have hit := List.find?_some search
        have hit : row.1 = other := eq_of_beq hit
        simp [hit, same]
  · rw [if_neg known]
    unfold under
    rw [List.find?_append]
    by_cases same : other = name
    · subst same
      have missing : table.rows.find? (·.1 == other) = none := by
        rw [List.find?_eq_none]
        intro row there named
        exact known (List.any_eq_true.mpr ⟨row, there, named⟩)
      simp [missing]
    · have foreign : [(name, [entry])].find? (·.1 == other) = none := by
        simp [Ne.symm same]
      rw [foreign, Option.or_none, if_neg same]

/-! ### Operations -/

/-- What can be done to a registry. -/
inductive Operation where
  | register (name : String) (component : Component)
  | unregister (name : String)
  | registerDependent (name dependent : String)
  | dependsOn (name dependency : String)

/-- That one name depends on another. -/
structure Dependency where
  dependent : String
  dependency : String
  deriving DecidableEq

/-- The dependency that an operation is to put on record. -/
def Operation.dependency? : Operation → Option Dependency
  | .registerDependent name dependent => some { dependent, dependency := name }
  | .dependsOn name dependency => some { dependent := name, dependency }
  | _ => none

/-- The dependencies that were recorded by a number of operations, each where it was recorded
first. -/
def recordedBy (operations : List Operation) : List Dependency :=
  (operations.filterMap Operation.dependency?).eraseDups

namespace Registry

/-- Does one operation. A name that is taken is not registered again. -/
def perform (registry : Registry) : Operation → Registry
  | .register name component =>
    match registry.register name component with
    | .ok registry => registry
    | .error _ => registry
  | .unregister name => (registry.unregister name).2
  | .registerDependent name dependent => registry.record dependent name
  | .dependsOn name dependency => registry.record name dependency

/-- The registry after a number of operations, beginning with an empty one. -/
def after (operations : List Operation) : Registry :=
  operations.foldl perform {}

/-! ### What a registry holds -/

/-- Names are registered once, and each table lists the recorded dependencies under one end. -/
structure Holds (registry : Registry) (recorded : List Dependency) : Prop where
  once : registry.names.Nodup
  dependencies : ∀ name, registry.dependenciesOf name =
    (recorded.filter (·.dependent = name)).map (·.dependency)
  dependents : ∀ name, registry.dependentsOf name =
    (recorded.filter (·.dependency = name)).map (·.dependent)

namespace Holds

variable {registry : Registry} {recorded : List Dependency}

theorem mem_dependenciesOf (holds : registry.Holds recorded) (name dependency : String) :
    dependency ∈ registry.dependenciesOf name ↔ ⟨name, dependency⟩ ∈ recorded := by
  rw [holds.dependencies, List.mem_map]
  constructor
  · rintro ⟨⟨dependent, other⟩, there, rfl⟩
    obtain ⟨inside, same⟩ := List.mem_filter.mp there
    obtain rfl : dependent = name := of_decide_eq_true same
    exact inside
  · exact fun there => ⟨_, List.mem_filter.mpr ⟨there, decide_eq_true rfl⟩, rfl⟩

theorem mem_dependentsOf (holds : registry.Holds recorded) (name dependent : String) :
    dependent ∈ registry.dependentsOf name ↔ ⟨dependent, name⟩ ∈ recorded := by
  rw [holds.dependents, List.mem_map]
  constructor
  · rintro ⟨⟨other, dependency⟩, there, rfl⟩
    obtain ⟨inside, same⟩ := List.mem_filter.mp there
    obtain rfl : dependency = name := of_decide_eq_true same
    exact inside
  · exact fun there => ⟨_, List.mem_filter.mpr ⟨there, decide_eq_true rfl⟩, rfl⟩

/-- The two tables mirror each other. -/
theorem mirror (holds : registry.Holds recorded) (name other : String) :
    other ∈ registry.dependenciesOf name ↔ name ∈ registry.dependentsOf other := by
  rw [holds.mem_dependenciesOf, holds.mem_dependentsOf]

theorem register (holds : registry.Holds recorded) (name : String) (component : Component) :
    (registry.perform (.register name component)).Holds recorded := by
  have performs : registry.perform (.register name component) =
      match registry.register name component with
      | .ok registry => registry
      | .error _ => registry := rfl
  rw [performs, Registry.register]
  by_cases taken : registry.contains name = true
  · rw [if_pos taken]
    exact holds
  · rw [if_neg taken]
    refine ⟨?_, holds.dependencies, holds.dependents⟩
    have free : name ∉ registry.names := by
      intro there
      obtain ⟨member, listed, rfl⟩ := List.mem_map.mp there
      exact taken (List.any_eq_true.mpr ⟨member, listed, beq_self_eq_true _⟩)
    show ((registry.members ++ [Member.mk name component]).map Member.name).Nodup
    rw [List.map_append, List.map_singleton, ← List.concat_eq_append]
    exact holds.once.concat free

theorem unregister (holds : registry.Holds recorded) (name : String) :
    (registry.perform (.unregister name)).Holds recorded :=
  ⟨holds.once.sublist (List.filter_sublist.map _), holds.dependencies, holds.dependents⟩

/-- A dependency that is on record stays where it is; a new one comes last. -/
theorem record (holds : registry.Holds recorded) (dependent dependency : String) :
    (registry.record dependent dependency).Holds
      (if ⟨dependent, dependency⟩ ∈ recorded then recorded
        else recorded ++ [⟨dependent, dependency⟩]) := by
  have known : registry.isRecorded dependent dependency = true ↔
      ⟨dependent, dependency⟩ ∈ recorded := by
    rw [isRecorded, List.contains_iff_mem, holds.mem_dependentsOf]
  unfold Registry.record
  by_cases there : ⟨dependent, dependency⟩ ∈ recorded
  · rw [if_pos (known.mpr there), if_pos there]
    exact holds
  · rw [if_neg (mt known.mp there), if_neg there]
    refine ⟨holds.once, fun name => ?_, fun name => ?_⟩
    · refine (NameTable.under_push _ _ _ _).trans ?_
      rw [List.filter_append, List.map_append, ← holds.dependencies]
      by_cases same : name = dependent
      · subst same
        simp [dependenciesOf]
      · simp [same, Ne.symm same, dependenciesOf]
    · refine (NameTable.under_push _ _ _ _).trans ?_
      rw [List.filter_append, List.map_append, ← holds.dependents]
      by_cases same : name = dependency
      · subst same
        simp [dependentsOf]
      · simp [same, Ne.symm same, dependentsOf]

end Holds

theorem recordedBy_append_singleton (operations : List Operation) (operation : Operation) :
    recordedBy (operations ++ [operation]) =
      match operation.dependency? with
      | none => recordedBy operations
      | some dependency =>
        if dependency ∈ recordedBy operations then recordedBy operations
        else recordedBy operations ++ [dependency] := by
  rw [recordedBy, List.filterMap_append, List.eraseDups_append]
  cases noted : operation.dependency? with
  | none => simp [noted, recordedBy]
  | some dependency =>
    rw [List.filterMap_cons_some noted, List.filterMap_nil]
    by_cases known : dependency ∈ recordedBy operations
    · have removed : [dependency].removeAll (operations.filterMap Operation.dependency?) = [] := by
        rw [List.removeAll, List.filter_cons_of_neg, List.filter_nil]
        simpa using List.mem_eraseDups.mp known
      rw [removed, List.eraseDups_nil, List.append_nil]
      exact (if_pos known).symm
    · have kept : [dependency].removeAll (operations.filterMap Operation.dependency?) =
          [dependency] := by
        rw [List.removeAll, List.filter_cons_of_pos, List.filter_nil]
        simpa using mt List.mem_eraseDups.mpr known
      rw [kept]
      exact (if_neg known).symm

/-- Whatever is done to a registry, it holds what was recorded. -/
theorem holds_after (operations : List Operation) :
    (Registry.after operations).Holds (recordedBy operations) := by
  induction operations using List.reverseRecOn with
  | nil => exact ⟨List.nodup_nil, fun _ => rfl, fun _ => rfl⟩
  | append_singleton operations operation inductionHypothesis =>
    rw [recordedBy_append_singleton, after, List.foldl_append]
    cases operation with
    | register name component => exact inductionHypothesis.register name component
    | unregister name => exact inductionHypothesis.unregister name
    | registerDependent name dependent => exact inductionHypothesis.record dependent name
    | dependsOn name dependency => exact inductionHypothesis.record name dependency

end Registry

end PhasedLifecycle
