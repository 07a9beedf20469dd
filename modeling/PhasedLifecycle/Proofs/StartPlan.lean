/-
This file puts a start pass flat. With fixed answers, a start pass comes to one member of the snapshot
after the other, in an order that is fixed as well: it neither looks at which components run nor changes
with the starts that fail. To each member the pass does the same: it asks whether the component runs,
and starts it if it does not and is wanted. A failure ends the pass where it stands.

The recursion is put flat step by step. A program that starts components comes to some names if what is
left of it is a loop over their members, and then whatever follows. What follows may look at the working
set only if no component failed, for a failure leaves the working set as it happens to be.
-/

import PhasedLifecycle.Proofs.FixedAnswers
import PhasedLifecycle.Proofs.StartOrder

namespace PhasedLifecycle

open Pass

/-! ### What components answer -/

namespace FixedAnswers

variable (fixed : FixedAnswers)

/-- The phase that a component stands in. -/
def phaseOf (component : Component) : Int :=
  match component.capability with
  | .plain => 0
  | .phased | .smart => fixed.phase component

/-- Whether a component starts by itself. -/
def startsItself (component : Component) : Bool :=
  match component.capability with
  | .plain | .phased => true
  | .smart => fixed.auto component

/-- Whether a start pass is to start a component. -/
def wants (autoOnly : Bool) (component : Component) : Bool :=
  !autoOnly || fixed.startsItself component

theorem settle_phase (component : Component) :
    component.phase.settle fixed = pure (fixed.phaseOf component) := by
  unfold Component.phase phaseOf
  cases component.capability <;> rfl

theorem settle_isWanted (autoOnly : Bool) (component : Component) :
    (component.isWanted autoOnly).settle fixed = pure (fixed.wants autoOnly component) := by
  unfold Component.isWanted wants Component.isAutoStartup startsItself
  cases autoOnly with
  | false => rfl
  | true => cases component.capability <;> rfl

/-! ### The groups and their roots -/

/-- The members of a group in ascending order of their phases. -/
def sorted (group : Group) : List Member :=
  ((group.members.map fun member => (fixed.phaseOf member.component, member)).mergeSort
    fun first second => first.1 ≤ second.1).map (·.2)

theorem settle_phases (group : Group) :
    group.phases.settle fixed =
      pure (group.members.map fun member => (fixed.phaseOf member.component, member)) := by
  unfold Group.phases
  induction group.members with
  | nil => rfl
  | cons member members inductionHypothesis =>
    rw [List.mapM_cons, settle_bind, settle_bind, settle_phase]
    simp only [settle_bind, settle_pure, inductionHypothesis, pure_bind, List.map_cons]

theorem settle_ascending (group : Group) :
    group.ascending.settle fixed = pure { group with members := fixed.sorted group } := by
  rw [Group.ascending, settle_bind, settle_phases]
  rfl

/-- The groups with what a listed name stands for added to the group of its phase, if it is wanted. -/
def gather (set : WorkingSet) (timeout : Nat) (autoOnly : Bool) (groups : List Group)
    (listed : Member) : List Group :=
  match set.get? listed.name with
  | none => groups
  | some component =>
    if fixed.wants autoOnly component then
      addToGroups { phase := fixed.phaseOf component, timeout, autoOnly }
        { name := listed.name, component } groups
    else groups

/-- The groups of a snapshot. -/
def groups (snapshot : List Member) (timeout : Nat) (autoOnly : Bool) : List Group :=
  snapshot.foldl (fixed.gather (WorkingSet.ofList snapshot) timeout autoOnly) []

theorem settle_groupSnapshot (snapshot : List Member) (timeout : Nat) (autoOnly : Bool) :
    (groupSnapshot snapshot timeout autoOnly).settle fixed =
      pure (fixed.groups snapshot timeout autoOnly) := by
  have each : ∀ groups listed,
      (PhasedLifecycle.gather (WorkingSet.ofList snapshot) timeout autoOnly groups listed).settle
        fixed = pure (fixed.gather (WorkingSet.ofList snapshot) timeout autoOnly groups listed) := by
    intro groups listed
    unfold PhasedLifecycle.gather gather
    cases (WorkingSet.ofList snapshot).get? listed.name with
    | none => rfl
    | some component =>
      dsimp only
      rw [settle_bind, settle_isWanted, pure_bind]
      cases fixed.wants autoOnly component with
      | false => rfl
      | true =>
        rw [if_pos rfl, if_pos rfl, settle_bind, settle_phase]
        rfl
  unfold groupSnapshot groups
  generalize ([] : List Group) = start
  generalize hypothesis : WorkingSet.ofList snapshot = set at each ⊢
  clear hypothesis
  induction snapshot generalizing start with
  | nil => rfl
  | cons listed snapshot inductionHypothesis =>
    rw [List.foldlM_cons, settle_bind, each, pure_bind, List.foldl_cons]
    exact inductionHypothesis _

/-- The names from which a start pass goes down, in their order. -/
def roots (snapshot : List Member) (autoOnly : Bool) : List String :=
  (fixed.groups snapshot 0 autoOnly).flatMap fun group => (fixed.sorted group).map (·.name)

/-- The timeout of the groups has no say in where a start pass goes down from. -/
theorem roots_eq (snapshot : List Member) (timeout : Nat) (autoOnly : Bool) :
    fixed.roots snapshot autoOnly =
      (fixed.groups snapshot timeout autoOnly).flatMap fun group =>
        (fixed.sorted group).map (·.name) := by
  have adding : ∀ (phase : Int) (member : Member) (groups : List Group),
      addToGroups { phase, timeout, autoOnly } member
          (groups.map fun group => { group with timeout }) =
        (addToGroups { phase, timeout := 0, autoOnly } member groups).map
          fun group => { group with timeout } := by
    intro phase member groups
    induction groups with
    | nil => rfl
    | cons group groups inductionHypothesis =>
      rw [List.map_cons, addToGroups, addToGroups, inductionHypothesis]
      dsimp only
      split
      · rfl
      · split <;> rfl
  have gathering : ∀ groups listed,
      fixed.gather (WorkingSet.ofList snapshot) timeout autoOnly
          (groups.map fun group => { group with timeout }) listed =
        (fixed.gather (WorkingSet.ofList snapshot) 0 autoOnly groups listed).map
          fun group => { group with timeout } := by
    intro groups listed
    unfold gather
    cases (WorkingSet.ofList snapshot).get? listed.name with
    | none => rfl
    | some component =>
      dsimp only
      split
      · exact adding _ _ _
      · rfl
  have retimed : fixed.groups snapshot timeout autoOnly =
      (fixed.groups snapshot 0 autoOnly).map fun group => { group with timeout } :=
    @List.foldl_hom (List Group) (List Group) Member
      (List.map fun group => { group with timeout }) _ _ snapshot [] gathering
  rw [retimed, List.flatMap_map]
  rfl

end FixedAnswers

/-! ### Coming to members -/

/-- The members of a working set that some names stand for. -/
def WorkingSet.listed (set : WorkingSet) (names : List String) : List Member :=
  names.filterMap fun name => (set.get? name).map fun component => { name, component }

theorem WorkingSet.names_listed_sublist (set : WorkingSet) (names : List String) :
    ((set.listed names).map (·.name)).Sublist names := by
  induction names with
  | nil => exact List.Sublist.refl _
  | cons name names inductionHypothesis =>
    rw [listed, List.filterMap_cons]
    cases set.get? name with
    | none => exact inductionHypothesis.cons name
    | some component => exact inductionHypothesis.cons_cons name

theorem WorkingSet.mem_of_mem_listed {set : WorkingSet} {names : List String} {member : Member}
    (there : member ∈ set.listed names) : member ∈ set.members := by
  obtain ⟨name, _, found⟩ := List.mem_filterMap.mp there
  obtain ⟨component, held, rfl⟩ := Option.map_eq_some_iff.mp found
  obtain ⟨other, search, rfl⟩ := Option.map_eq_some_iff.mp held
  have named : other.name = name := by simpa using List.find?_some search
  rw [← named]
  exact List.mem_of_find?_eq_some search

/-- Comes to one member: starts it, if no component failed yet and it is wanted and does not run. -/
def FixedAnswers.attempt (fixed : FixedAnswers) (autoOnly : Bool) (failure : Option LifecycleError)
    (member : Member) : Pass (Option LifecycleError) := do
  if failure.isSome then return failure
  if ← ask (.isRunning member.component) then return none
  if fixed.wants autoOnly member.component then
    return (← ask (.start member.component)).map (.startFailed member.name)
  return none

/-- The search after some more names had their turn. -/
def Descent.beyond (descent : Descent) (names : List String) : Descent where
  left := descent.left.without names
  order := descent.order ++ names

theorem Descent.beyond_nil (descent : Descent) : descent.beyond [] = descent := by
  rw [beyond, WorkingSet.without_nil, List.append_nil]

theorem Descent.beyond_beyond (descent : Descent) (first second : List String) :
    (descent.beyond first).beyond second = descent.beyond (first ++ second) := by
  rw [beyond, beyond, beyond, WorkingSet.without_without, List.append_assoc]

/-- A way to go on which, once a component failed, looks at nothing but the failure. -/
def Heedless {Value : Type} (next : Starting → Pass Value) : Prop :=
  ∀ starting other : Starting, starting.failure = other.failure → starting.failure ≠ none →
    next starting = next other

/-- A way to go on which does nothing more once a component failed is heedless, if what follows is. -/
theorem Heedless.andThen {Value : Type} {fixed : FixedAnswers} {next : Starting → Pass Value}
    (heedless : Heedless next) {rest : Starting → Pass Starting}
    (stops : ∀ starting, starting.failure ≠ none → rest starting = pure starting) :
    Heedless fun starting => (rest starting).settle fixed >>= next := by
  intro starting other same failed
  dsimp only
  rw [stops starting failed, stops other (same ▸ failed)]
  exact heedless starting other same failed

/-- A loop does nothing more once a component failed, if its rounds do not. -/
theorem foldlM_of_stops {Entry : Type} {step : Starting → Entry → Pass Starting}
    (stops : ∀ (starting : Starting) entry, starting.failure ≠ none →
      step starting entry = pure starting)
    (entries : List Entry) {starting : Starting} (failed : starting.failure ≠ none) :
    entries.foldlM step starting = pure starting := by
  induction entries with
  | nil => rfl
  | cons entry entries inductionHypothesis =>
    rw [List.foldlM_cons, stops _ _ failed, pure_bind, inductionHypothesis]

/-- What is left of a program comes to the members of some names, and takes the names out of the
working set. -/
def ComesTo (fixed : FixedAnswers) (autoOnly : Bool) (set left : WorkingSet) (names : List String)
    (pass : Pass Starting) : Prop :=
  ∀ {Value : Type} (next : Starting → Pass Value), Heedless next →
    pass.settle fixed >>= next =
      (set.listed names).foldlM (fixed.attempt autoOnly) none >>= fun failure =>
        next { left := left.without names, failure }

namespace ComesTo

variable {fixed : FixedAnswers} {autoOnly : Bool} {set left : WorkingSet}

/-- Once a component failed, no member is come to. -/
theorem foldlM_attempt_of_failed (error : LifecycleError) (members : List Member) :
    members.foldlM (fixed.attempt autoOnly) (some error) = pure (some error) := by
  induction members with
  | nil => rfl
  | cons member members inductionHypothesis => exact inductionHypothesis

theorem refl : ComesTo fixed autoOnly set left [] (pure { left }) := by
  intro Value next heedless
  show next { left } = next { left := left.without [] }
  rw [WorkingSet.without_nil]

/-- Programs come to names one after the other, if the second does nothing once a component failed. -/
theorem andThen {first : Pass Starting} {rest : Starting → Pass Starting} {names others : List String}
    (stops : ∀ starting, starting.failure ≠ none → rest starting = pure starting)
    (earlier : ComesTo fixed autoOnly set left names first)
    (later : ComesTo fixed autoOnly set (left.without names) others
      (rest { left := left.without names })) :
    ComesTo fixed autoOnly set left (names ++ others) (first >>= rest) := by
  intro Value next heedless
  have listed : set.listed (names ++ others) = set.listed names ++ set.listed others :=
    List.filterMap_append
  rw [settle_bind, bind_assoc, earlier _ (heedless.andThen stops), listed, List.foldlM_append,
    bind_assoc]
  refine congrArg (_ >>= ·) (funext fun failure => ?_)
  cases failure with
  | none =>
    rw [← WorkingSet.without_without]
    exact later next heedless
  | some error =>
    rw [stops _ (Option.some_ne_none error), foldlM_attempt_of_failed]
    exact heedless _ _ rfl (Option.some_ne_none error)

/-- A loop comes to names if its rounds do. -/
theorem foldlM {Entry : Type} {step : Starting → Entry → Pass Starting}
    {search : Descent → Entry → Descent}
    (stops : ∀ (starting : Starting) entry, starting.failure ≠ none →
      step starting entry = pure starting)
    {entries : List Entry}
    (each : ∀ (descent : Descent), ∀ entry ∈ entries, (∃ taken, descent.left = set.without taken) →
      ∃ names, search descent entry = descent.beyond names ∧
        ComesTo fixed autoOnly set descent.left names (step { left := descent.left } entry))
    {descent : Descent} (part : ∃ taken, descent.left = set.without taken) :
    ∃ names, entries.foldl search descent = descent.beyond names ∧
      ComesTo fixed autoOnly set descent.left names (entries.foldlM step { left := descent.left }) := by
  induction entries generalizing descent with
  | nil =>
    exact ⟨[], (Descent.beyond_nil descent).symm, refl⟩
  | cons entry entries inductionHypothesis =>
    obtain ⟨names, reached, first⟩ := each descent entry List.mem_cons_self part
    have partLater : ∃ taken, (descent.beyond names).left = set.without taken := by
      obtain ⟨taken, place⟩ := part
      exact ⟨taken ++ names, by rw [Descent.beyond, place, WorkingSet.without_without]⟩
    obtain ⟨others, reachedLater, later⟩ := inductionHypothesis
      (fun descent other there => each descent other (List.mem_cons_of_mem _ there)) partLater
    refine ⟨names ++ others, ?_, ?_⟩
    · rw [List.foldl_cons, reached, reachedLater, Descent.beyond_beyond]
    · rw [List.foldlM_cons]
      exact first.andThen (fun _ => foldlM_of_stops stops entries) later

/-- The turn of a component comes to its member. -/
theorem settle_turn (name : String) (component : Component) :
    (Starting.turn autoOnly name component { left }).settle fixed =
      fixed.attempt autoOnly none { name, component } >>= fun failure => pure { left, failure } := by
  have launch : (Starting.launch name component { left }).settle fixed =
      ask (.start component) >>= fun reason =>
        pure { left, failure := reason.map (.startFailed name) } := by
    rw [Starting.launch, settle_note_bind, settle_unknown_bind fixed rfl]
    refine congrArg (ask (.start component) >>= ·) (funext fun reason => ?_)
    cases reason <;> rfl
  rw [Starting.turn, settle_unknown_bind fixed rfl, FixedAnswers.attempt]
  show _ = ask (.isRunning component) >>= _ >>= _
  rw [bind_assoc]
  refine congrArg (ask (.isRunning component) >>= ·) (funext fun running => ?_)
  cases running with
  | true => rfl
  | false =>
    simp only [Bool.false_eq_true, if_false]
    rw [settle_bind, fixed.settle_isWanted, pure_bind]
    cases fixed.wants autoOnly component with
    | false => rfl
    | true =>
      simp only [if_true]
      rw [launch, bind_assoc]
      rfl

/-- The turn of a component that is out of the working set already comes to its name. -/
theorem turn {name : String} {component : Component} (held : set.get? name = some component)
    (taken : left.without [name] = left) :
    ComesTo fixed autoOnly set left [name] (Starting.turn autoOnly name component { left }) := by
  intro Value next heedless
  have own : set.listed [name] = [{ name, component }] := by
    rw [WorkingSet.listed, List.filterMap_cons, held]
    rfl
  rw [settle_turn, own, taken, List.foldlM_cons, bind_assoc, bind_assoc]
  rfl

theorem visit_of_failed {depth : Nat} {starting : Starting} {name : String}
    (failed : starting.failure ≠ none) :
    Starting.visit autoOnly depth starting name = pure starting := by
  obtain ⟨error, failure⟩ := Option.ne_none_iff_exists'.mp failed
  cases depth with
  | zero => rfl
  | succ depth => rw [Starting.visit, failure]

/-- Going down from a name, a start pass comes to the names that the search comes back from. -/
theorem visit (depth : Nat) (descent : Descent) (name : String)
    (part : ∃ taken, descent.left = set.without taken) :
    ∃ names, descent.visit fixed.dependencies depth name = descent.beyond names ∧
      ComesTo fixed autoOnly set descent.left names
        (Starting.visit autoOnly depth { left := descent.left } name) := by
  induction depth generalizing descent name with
  | zero => exact ⟨[], descent.beyond_nil.symm, refl⟩
  | succ depth inductionHypothesis =>
    cases found : descent.left.get? name with
    | none =>
      have absent : name ∉ descent.left.names := (WorkingSet.get?_eq_none_iff _ _).mp found
      refine ⟨[], (Descent.visit_of_notMem _ absent).trans descent.beyond_nil.symm, ?_⟩
      rw [Starting.visit, found]
      exact refl
    | some component =>
      obtain ⟨taken, place⟩ := part
      have erased : (descent.left.erase name) = set.without (taken ++ [name]) := by
        rw [WorkingSet.erase_eq_without, place, WorkingSet.without_without]
      obtain ⟨names, reached, below⟩ := @foldlM fixed autoOnly set String
        (Starting.visit autoOnly depth) (Descent.visit fixed.dependencies depth)
        (fun _ _ failed => visit_of_failed failed) (fixed.dependencies name)
        (fun descent next _ part => inductionHypothesis descent next part)
        { descent with left := descent.left.erase name } ⟨_, erased⟩
      have again : ((descent.left.erase name).without names).without [name] =
          (descent.left.erase name).without names := by
        simp only [WorkingSet.erase_eq_without, WorkingSet.without_without]
        exact WorkingSet.without_congr _ fun other => by simp [or_comm]
      have emptied : descent.left.without (names ++ [name]) =
          (descent.left.erase name).without (names ++ [name]) := by
        rw [WorkingSet.erase_eq_without, WorkingSet.without_without]
        exact WorkingSet.without_congr _ fun other => by simp [or_comm]
      have held : set.get? name = some component :=
        (WorkingSet.get?_without (place ▸ found)).2
      have stops : ∀ starting : Starting, starting.failure ≠ none →
          (if starting.failure.isSome then pure starting
            else Starting.turn autoOnly name component starting : Pass Starting) = pure starting :=
        fun _ failed => if_pos (Option.isSome_iff_ne_none.mpr failed)
      refine ⟨names ++ [name], ?_, fun next heedless => ?_⟩
      · rw [Descent.visit_of_mem _ (WorkingSet.mem_names_of_get? found), reached]
        rw [Descent.beyond, Descent.beyond, emptied, ← WorkingSet.without_without, again,
          List.append_assoc]
      · rw [Starting.visit, found]
        dsimp only
        rw [@settle_ask_bind _ fixed _ (fixed.dependencies name) rfl, emptied]
        exact below.andThen stops (turn held again) next heedless

/-- Starting names one after the other, a start pass comes to the names that the search comes back
from. -/
theorem starts (roots : List String) {descent : Descent}
    (part : ∃ taken, descent.left = set.without taken) :
    ∃ names, roots.foldl (Descent.enter fixed.dependencies) descent = descent.beyond names ∧
      ComesTo fixed autoOnly set descent.left names
        (roots.foldlM (Starting.start autoOnly) { left := descent.left }) :=
  foldlM (fun _ _ failed => visit_of_failed failed)
    (fun descent root _ part => visit descent.left.size descent root part) part

/-- The start of a group comes to the names that the search from its sorted members comes back
from. -/
theorem group (group : Group) (same : group.autoOnly = autoOnly) {descent : Descent}
    (part : ∃ taken, descent.left = set.without taken) :
    ∃ names, ((fixed.sorted group).map (·.name)).foldl (Descent.enter fixed.dependencies) descent =
        descent.beyond names ∧
      ComesTo fixed autoOnly set descent.left names
        (group.start descent.left >>= fun started => pure started.2) := by
  obtain ⟨names, reached, comes⟩ := @starts fixed autoOnly set
    ((fixed.sorted group).map (·.name)) descent part
  refine ⟨names, reached, fun next heedless => ?_⟩
  rw [← comes next heedless]
  subst same
  unfold Group.start
  cases empty : group.members with
  | nil =>
    have none : fixed.sorted group = [] := by
      rw [FixedAnswers.sorted, empty, List.map_nil, List.mergeSort_nil, List.map_nil]
    rw [none]
    rfl
  | cons member members =>
    rw [← empty]
    have filled : group.members.isEmpty = false := by rw [empty]; rfl
    rw [filled, List.foldlM_map]
    simp only [Bool.false_eq_true, if_false, settle_bind, settle_note, bind_assoc,
      fixed.settle_ascending, pure_bind, settle_pure]

/-- The start of groups comes to the names that the search from all their sorted members comes back
from. -/
theorem groups {groups : List Group} (same : ∀ group ∈ groups, group.autoOnly = autoOnly)
    {descent : Descent} (part : ∃ taken, descent.left = set.without taken) :
    ∃ names, (groups.flatMap fun group => (fixed.sorted group).map (·.name)).foldl
        (Descent.enter fixed.dependencies) descent = descent.beyond names ∧
      ComesTo fixed autoOnly set descent.left names (startGroups groups { left := descent.left }) := by
  rw [List.foldl_flatMap]
  exact @foldlM fixed autoOnly set Group
    (fun (starting : Starting) group => do
      if starting.failure.isSome then return starting
      Pass.note (.phaseOpened group.phase group.members.length)
      return (← group.start starting.left).2)
    (fun descent group =>
      ((fixed.sorted group).map (·.name)).foldl (Descent.enter fixed.dependencies) descent)
    (fun _ _ failed => if_pos (Option.isSome_iff_ne_none.mpr failed)) _
    (fun _ group there part => ComesTo.group group (same group there) part) descent part

end ComesTo

/-! ### The plan of a start pass -/

namespace FixedAnswers

variable (fixed : FixedAnswers) (snapshot : List Member) (autoOnly : Bool)

/-- The members of a snapshot in the order in which a start pass comes to them. -/
def plan : List Member :=
  (WorkingSet.ofList snapshot).listed
    ((fixed.roots snapshot autoOnly).foldl (Descent.enter fixed.dependencies)
      { left := WorkingSet.ofList snapshot }).order

theorem autoOnly_of_mem_groups {timeout : Nat} :
    ∀ group ∈ fixed.groups snapshot timeout autoOnly, group.autoOnly = autoOnly := by
  refine List.foldlRecOn snapshot _ (motive := fun groups : List Group =>
    ∀ group ∈ groups, group.autoOnly = autoOnly)
    (fun _ there => absurd there List.not_mem_nil) fun groups same listed _ => ?_
  unfold gather
  cases (WorkingSet.ofList snapshot).get? listed.name with
  | none => exact same
  | some component =>
    dsimp only
    split
    · exact forall_addToGroups same rfl fun group there _ => same group there
    · exact same

/-- What is left of a start pass comes to the members of the plan, one after the other, and ends with
the failure of the one that failed. -/
theorem settle_startPass (timeout : Nat) :
    (startPass snapshot timeout autoOnly).settle fixed =
      (fixed.plan snapshot autoOnly).foldlM (fixed.attempt autoOnly) none >>= fun failure =>
        pure (match failure with | some error => .error error | none => .ok ()) := by
  obtain ⟨names, reached, comes⟩ := @ComesTo.groups fixed autoOnly (WorkingSet.ofList snapshot) _
    (@autoOnly_of_mem_groups fixed snapshot autoOnly timeout)
    { left := WorkingSet.ofList snapshot } ⟨[], (WorkingSet.without_nil _).symm⟩
  have heedless : Heedless fun starting : Starting =>
      (pure (match starting.failure with | some error => .error error | none => .ok ()) :
        Pass (Except LifecycleError Unit)) := by
    intro starting other same _
    dsimp only
    rw [same]
  have order : fixed.plan snapshot autoOnly = (WorkingSet.ofList snapshot).listed names := by
    rw [plan, fixed.roots_eq snapshot timeout autoOnly, reached]
    rfl
  rw [order, startPass, settle_bind, settle_groupSnapshot, pure_bind, settle_bind]
  refine Eq.trans ?_ (comes _ heedless)
  refine congrArg (_ >>= ·) (funext fun starting => ?_)
  cases starting.failure <;> rfl

/-- Where each name has a component of its own, the plan holds no component twice. -/
theorem nodup_components_plan
    (separate : ((WorkingSet.ofList snapshot).members.map (·.component)).Nodup) :
    ((fixed.plan snapshot autoOnly).map (·.component)).Nodup := by
  have once := ((@Descent.sound_initial fixed.dependencies _
    (WorkingSet.distinct_ofList snapshot)).enterAll (fixed.roots snapshot autoOnly)).1.once
  have names : ((fixed.plan snapshot autoOnly).map (·.name)).Nodup :=
    once.sublist (WorkingSet.names_listed_sublist _ _)
  exact names.of_map.map_on fun first there second present same =>
    List.inj_on_of_nodup_map separate (WorkingSet.mem_of_mem_listed there)
      (WorkingSet.mem_of_mem_listed present) same

end FixedAnswers

end PhasedLifecycle
