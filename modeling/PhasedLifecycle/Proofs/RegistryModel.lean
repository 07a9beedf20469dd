/-
This file describes a registry by what was done to it, without the registry. A name is taken if it
was registered and not unregistered since. A registration counts if the name was free, and lasts if
the name is not unregistered later; the registrations that count and last, in the order in which they
were made, are the members. The dependencies are those that were ever recorded. Every question that a
registry answers, it answers from these two lists.
-/

import PhasedLifecycle.Proofs.RegistryHistory

namespace PhasedLifecycle

/-! ### What operations leave behind -/

/-- The member that an operation is to add. -/
def Operation.member? : Operation → Option Member
  | .register name component => some { name, component }
  | _ => none

/-- Whether an operation unregisters a name. -/
def Operation.frees (operation : Operation) (name : String) : Bool :=
  match operation with
  | .unregister other => other == name
  | _ => false

/-- Whether a name that is taken stays so through a number of operations. -/
def lasts (operations : List Operation) (name : String) : Bool :=
  operations.all fun operation => !operation.frees name

/-- Whether a name was registered by one of a number of operations, and not unregistered since. -/
def isTaken : List Operation → String → Bool
  | [], _ => false
  | operation :: later, name =>
    operation.member?.any (·.name == name) && lasts later name || isTaken later name

/-- The members that are added after some operations by later ones, and are there after all. -/
def membersAdded (earlier : List Operation) : List Operation → List Member
  | [] => []
  | operation :: later =>
    (operation.member?.filter fun member =>
      !isTaken earlier member.name && lasts later member.name).toList ++
        membersAdded (earlier ++ [operation]) later

/-- The members that are there after a number of operations, beginning with none. -/
def membersBy (operations : List Operation) : List Member :=
  membersAdded [] operations

section

variable (earlier operations : List Operation) (operation : Operation) (name : String)

theorem lasts_append_singleton :
    lasts (operations ++ [operation]) name = (lasts operations name && !operation.frees name) := by
  simp [lasts]

/-- The last operation on a name decides whether it is taken. -/
theorem isTaken_append_singleton : isTaken (operations ++ [operation]) name =
    (operation.member?.any (·.name == name) || isTaken operations name && !operation.frees name) := by
  induction operations with
  | nil => simp [isTaken, lasts]
  | cons first operations inductionHypothesis =>
    rw [List.cons_append, isTaken, isTaken, inductionHypothesis, lasts_append_singleton]
    cases first.member?.any (·.name == name) <;> cases lasts operations name <;>
      cases operation.member?.any (·.name == name) <;> simp

/-- One more operation takes the member of the name out that it frees, and adds a member if it has
one and the name is free. -/
theorem membersAdded_append_singleton : membersAdded earlier (operations ++ [operation]) =
    (membersAdded earlier operations).filter (fun member => !operation.frees member.name) ++
      (operation.member?.filter fun member =>
        !isTaken (earlier ++ operations) member.name).toList := by
  induction operations generalizing earlier with
  | nil => simp [membersAdded, lasts]
  | cons first operations inductionHypothesis =>
    rw [List.cons_append, membersAdded, membersAdded, inductionHypothesis, List.filter_append,
      List.append_assoc, List.append_assoc, List.singleton_append]
    congr 1
    cases first.member? with
    | none => rfl
    | some member =>
      simp only [lasts_append_singleton, Option.filter_some]
      cases isTaken earlier member.name <;> cases lasts operations member.name <;>
        cases kept : operation.frees member.name <;> simp [kept]

theorem membersBy_append_singleton : membersBy (operations ++ [operation]) =
    (membersBy operations).filter (fun member => !operation.frees member.name) ++
      (operation.member?.filter fun member => !isTaken operations member.name).toList := by
  rw [membersBy, membersAdded_append_singleton, List.nil_append, membersBy]

end

/-- A name is taken just when a member bears it. -/
theorem isTaken_iff (operations : List Operation) (name : String) :
    isTaken operations name = true ↔ name ∈ (membersBy operations).map (·.name) := by
  induction operations using List.reverseRecOn with
  | nil => simp [isTaken, membersBy, membersAdded]
  | append_singleton operations operation inductionHypothesis =>
    have kept : name ∈ ((membersBy operations).filter
        (fun member => !operation.frees member.name)).map (·.name) ↔
          isTaken operations name = true ∧ operation.frees name = false := by
      rw [inductionHypothesis]
      simp only [List.mem_map, List.mem_filter, Bool.not_eq_true']
      constructor
      · rintro ⟨member, ⟨there, free⟩, rfl⟩
        exact ⟨⟨member, there, rfl⟩, free⟩
      · rintro ⟨⟨member, there, rfl⟩, free⟩
        exact ⟨member, ⟨there, free⟩, rfl⟩
    rw [isTaken_append_singleton, membersBy_append_singleton, List.map_append, List.mem_append, kept]
    cases added : operation.member? with
    | none => simp
    | some member =>
      by_cases same : member.name = name
      · subst same
        cases taken : isTaken operations member.name with
        | false => simp [taken]
        | true =>
          have stays : operation.frees member.name = false := by
            cases operation with
            | register => rfl
            | _ => cases added
          simp [stays]
      · cases taken : isTaken operations member.name <;> simp [same, taken]

/-- Recording once is enough. -/
theorem nodup_recordedBy (operations : List Operation) : (recordedBy operations).Nodup := by
  induction operations using List.reverseRecOn with
  | nil => exact List.nodup_nil
  | append_singleton operations operation inductionHypothesis =>
    rw [Registry.recordedBy_append_singleton]
    cases operation.dependency? with
    | none => exact inductionHypothesis
    | some dependency =>
      by_cases known : dependency ∈ recordedBy operations
      · simpa only [if_pos known] using inductionHypothesis
      · simp only [if_neg known, ← List.concat_eq_append]
        exact inductionHypothesis.concat known

/-! ### A registry that answers from lists -/

namespace Registry

/-- What a registry that has certain members and dependencies answers, and what registering and
unregistering does to it. -/
structure AnswersFrom (registry : Registry) (members : List Member) (recorded : List Dependency) :
    Prop where
  distinct : (members.map (·.name)).Nodup
  single : recorded.Nodup
  components : registry.members = members
  size : registry.size = members.length
  isEmpty : registry.isEmpty = true ↔ members = []
  contains : ∀ name, registry.contains name = true ↔ name ∈ members.map (·.name)
  dependencies : ∀ name, registry.dependenciesOf name =
    (recorded.filter (·.dependent = name)).map (·.dependency)
  dependents : ∀ name, registry.dependentsOf name =
    (recorded.filter (·.dependency = name)).map (·.dependent)
  singleDependencies : ∀ name, (registry.dependenciesOf name).Nodup
  singleDependents : ∀ name, (registry.dependentsOf name).Nodup
  mirror : ∀ name other, name ∈ registry.dependentsOf other ↔ other ∈ registry.dependenciesOf name
  register : ∀ name component, registry.register name component =
    if name ∈ members.map (·.name) then .error (.registration name "组件名称已存在")
    else .ok { registry with members := members ++ [{ name, component }] }
  refused : ∀ name component, registry.perform (.register name component) = registry ↔
    name ∈ members.map (·.name)
  found : ∀ name component, (registry.unregister name).1 = some component ↔
    { name, component } ∈ members
  missed : ∀ name, (registry.unregister name).1 = none ↔ name ∉ members.map (·.name)
  unregister : ∀ name, (registry.unregister name).2 =
    { registry with members := members.filter (·.name ≠ name) }

theorem contains_iff (registry : Registry) (name : String) :
    registry.contains name = true ↔ name ∈ registry.members.map (·.name) := by
  rw [contains, List.any_eq_true, List.mem_map]
  exact exists_congr fun member => and_congr_right fun _ => beq_iff_eq

/-- A registration that is refused leaves the registry as it is; one that is not adds a member. -/
theorem perform_register (registry : Registry) (name : String) (component : Component) :
    registry.perform (.register name component) =
      if registry.contains name then registry
      else { registry with members := registry.members ++ [{ name, component }] } := by
  rw [perform, register]
  cases registry.contains name <;> rfl

theorem members_record (registry : Registry) (dependent dependency : String) :
    (registry.record dependent dependency).members = registry.members := by
  unfold record
  split <;> rfl

/-- The members of a registry are the registrations that count and last. -/
theorem members_after (operations : List Operation) :
    (Registry.after operations).members = membersBy operations := by
  induction operations using List.reverseRecOn with
  | nil => rfl
  | append_singleton operations operation inductionHypothesis =>
    rw [membersBy_append_singleton, ← inductionHypothesis, after, List.foldl_append]
    show ((Registry.after operations).perform operation).members = _
    cases operation with
    | register name component =>
      have taken : (Registry.after operations).contains name = isTaken operations name := by
        rw [Bool.eq_iff_iff, contains_iff, isTaken_iff, inductionHypothesis]
      rw [perform_register, taken]
      cases free : isTaken operations name <;>
        simp [Operation.member?, Operation.frees, Option.filter_some, free]
    | unregister name =>
      have others : (fun member : Member => decide (member.name ≠ name)) =
          fun member => !(Operation.unregister name).frees member.name := by
        funext member
        show decide (member.name ≠ name) = !(name == member.name)
        rw [BEq.comm]
        exact decide_not
      show (Registry.after operations).members.filter (·.name ≠ name) = _
      rw [others]
      exact (List.append_nil _).symm
    | registerDependent name dependent =>
      show ((Registry.after operations).record dependent name).members = _
      simp [Operation.member?, Operation.frees, members_record]
    | dependsOn name dependency =>
      show ((Registry.after operations).record name dependency).members = _
      simp [Operation.member?, Operation.frees, members_record]

/-- Where names are distinct, unregistering a name returns its component. -/
theorem unregister_fst_eq_some_iff {registry : Registry} (distinct : registry.names.Nodup)
    (name : String) (component : Component) :
    (registry.unregister name).1 = some component ↔ { name, component } ∈ registry.members := by
  show (registry.members.find? (·.name == name)).map (·.component) = some component ↔ _
  constructor
  · intro returned
    obtain ⟨member, found, rfl⟩ := Option.map_eq_some_iff.mp returned
    have named := List.find?_some found
    obtain rfl : member.name = name := eq_of_beq named
    exact List.mem_of_find?_eq_some found
  · intro there
    cases found : registry.members.find? (·.name == name) with
    | none =>
      have missed := List.find?_eq_none.mp found _ there
      exact absurd (beq_self_eq_true name) missed
    | some member =>
      have named := List.find?_some found
      have named : member.name = name := eq_of_beq named
      have same := List.inj_on_of_nodup_map distinct (List.mem_of_find?_eq_some found) there named
      rw [same]
      rfl

theorem unregister_fst_eq_none_iff (registry : Registry) (name : String) :
    (registry.unregister name).1 = none ↔ name ∉ registry.members.map (·.name) := by
  show (registry.members.find? (·.name == name)).map (·.component) = none ↔ _
  rw [Option.map_eq_none_iff, List.find?_eq_none, List.mem_map]
  simp

/-- A registration is refused just when the registry stays as it is. -/
theorem perform_register_eq_self_iff (registry : Registry) (name : String) (component : Component) :
    registry.perform (.register name component) = registry ↔ registry.contains name = true := by
  rw [perform_register]
  cases registry.contains name with
  | true => simp
  | false =>
    refine iff_of_false (fun same => ?_) Bool.false_ne_true
    have longer := congrArg (·.members.length) same
    simp at longer

end Registry

/-- Dependencies with one end in common, recorded once each, list no other end twice. -/
theorem nodup_ends {recorded : List Dependency} (single : recorded.Nodup)
    {near far : Dependency → String} (apart : ∀ first second : Dependency,
      near first = near second → far first = far second → first = second) (name : String) :
    ((recorded.filter (near · = name)).map far).Nodup := by
  refine (single.filter _).map_on fun first there second alsoThere same => ?_
  have named : near first = name := of_decide_eq_true (List.mem_filter.mp there).2
  have alsoNamed : near second = name := of_decide_eq_true (List.mem_filter.mp alsoThere).2
  exact apart first second (named.trans alsoNamed.symm) same

/-- Whatever is done to a registry, beginning with an empty one, it answers from the registrations
that count and last and from the dependencies that were ever recorded. A registration is refused just
when a member bears the name, and changes nothing then; unregistering a name returns the component of
the member that bears it, if there is one, and leaves the dependencies on record. -/
theorem registry_answers_from_history (operations : List Operation) :
    (Registry.after operations).AnswersFrom (membersBy operations) (recordedBy operations) := by
  have holds := Registry.holds_after operations
  have members := Registry.members_after operations
  have single := nodup_recordedBy operations
  have contains (name : String) : (Registry.after operations).contains name = true ↔
      name ∈ (membersBy operations).map (·.name) := by
    rw [Registry.contains_iff, members]
  constructor
  case distinct => exact members ▸ holds.once
  case single => exact single
  case components => exact members
  case size => rw [Registry.size, members]
  case isEmpty => rw [Registry.isEmpty, members, List.isEmpty_iff]
  case contains => exact contains
  case dependencies => exact holds.dependencies
  case dependents => exact holds.dependents
  case singleDependencies =>
    intro name
    rw [holds.dependencies]
    refine nodup_ends single (fun first second near far => ?_) name
    cases first
    exact congrArg₂ Dependency.mk near far
  case singleDependents =>
    intro name
    rw [holds.dependents]
    refine nodup_ends single (fun first second near far => ?_) name
    cases first
    exact congrArg₂ Dependency.mk far near
  case mirror => exact fun name other => (holds.mirror name other).symm
  case register =>
    intro name component
    rw [Registry.register, members]
    exact if_congr (contains name) rfl rfl
  case refused =>
    intro name component
    rw [Registry.perform_register_eq_self_iff, contains]
  case found =>
    intro name component
    rw [Registry.unregister_fst_eq_some_iff holds.once, members]
  case missed =>
    intro name
    rw [Registry.unregister_fst_eq_none_iff, members]
  case unregister =>
    intro name
    rw [Registry.unregister, members]

/-- A name that is registered again comes last, with the component it is registered with then. -/
example :
    membersBy [.register "a" ⟨"1", .plain⟩, .register "b" ⟨"2", .plain⟩, .register "a" ⟨"3", .plain⟩,
      .unregister "a", .dependsOn "b" "a", .register "a" ⟨"4", .smart⟩] =
        [⟨"b", ⟨"2", .plain⟩⟩, ⟨"a", ⟨"4", .smart⟩⟩] := by decide

end PhasedLifecycle
