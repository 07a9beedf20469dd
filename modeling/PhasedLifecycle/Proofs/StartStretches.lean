/-
This file carries properties along a start pass, whatever the registry answers. A property may speak of
a stretch of the pass and of the failure that the stretch ends with. What holds of the questions between
turns and of each turn, and of two stretches in a row if it holds of both, holds of the whole pass.

One such property is that every call is a start of a component that the pass was told to start, and that
only the last can fail.
-/

import PhasedLifecycle.Proofs.StartOrder

namespace PhasedLifecycle

open Pass

/-! ### What holds of every turn -/

/-- A question of a start pass that is of no turn. -/
def Request.isBetween : Request → Prop
  | .dependencies _ => True
  | request => request.isOutset

theorem Request.isBetween_of_isOutset {request : Request} (outset : request.isOutset) :
    request.isBetween := by
  cases request <;> first | exact outset | trivial

theorem Request.isOutset_of_isAside {request : Request} (aside : request.isAside) :
    request.isOutset := by
  cases request <;> first | exact aside | trivial

/-- A property that a start pass carries along. It holds of the questions between turns and of each
turn, and of two records in a row if it holds of both and the first ends well. -/
structure Carried (autoOnly : Bool) (holds : List Exchange → Option LifecycleError → Prop) : Prop where
  between : ∀ record, (∀ exchange ∈ record, exchange.request.isBetween) → holds record none
  append : ∀ first last failure, holds first none → holds last failure → holds (first ++ last) failure
  turn : ∀ name component starting record result, starting.failure = none →
    (Starting.turn autoOnly name component starting).Yields record result → holds record result.failure

/-- The property holds of a stretch of a start pass. After a failure nothing more is asked. -/
structure Starting.Carries (holds : List Exchange → Option LifecycleError → Prop)
    (record : List Exchange) (before after : Starting) : Prop where
  unfailed : before.failure = none → holds record after.failure
  failed : before.failure ≠ none → record = [] ∧ after = before

namespace Carried

variable {autoOnly : Bool} {holds : List Exchange → Option LifecycleError → Prop}
  {record first last : List Exchange} {before middle after : Starting}

theorem questions (carried : Carried autoOnly holds) (fine : before.failure = none)
    (same : after.failure = none) (between : ∀ exchange ∈ record, exchange.request.isBetween) :
    Starting.Carries holds record before after :=
  ⟨fun _ => same ▸ carried.between record between, fun failed => absurd fine failed⟩

theorem nothing (carried : Carried autoOnly holds) : Starting.Carries holds [] before before :=
  ⟨fun fine => fine ▸ carried.between [] fun _ there => absurd there List.not_mem_nil,
    fun _ => ⟨rfl, rfl⟩⟩

theorem trans (carried : Carried autoOnly holds) (head : Starting.Carries holds first before middle)
    (tail : Starting.Carries holds last middle after) :
    Starting.Carries holds (first ++ last) before after where
  unfailed := fun fine => by
    by_cases fineMiddle : middle.failure = none
    · exact carried.append _ _ _ (fineMiddle ▸ head.unfailed fine) (tail.unfailed fineMiddle)
    · obtain ⟨rfl, rfl⟩ := tail.failed fineMiddle
      rw [List.append_nil]
      exact head.unfailed fine
  failed := fun failed => by
    obtain ⟨rfl, rfl⟩ := head.failed failed
    exact tail.failed failed

theorem foldlM (carried : Carried autoOnly holds) {Entry : Type}
    {step : Starting → Entry → Pass Starting} {entries : List Entry}
    (each : ∀ {before after record}, ∀ entry ∈ entries, (step before entry).Yields record after →
      Starting.Carries holds record before after)
    (yields : (entries.foldlM step before).Yields record after) :
    Starting.Carries holds record before after := by
  induction entries generalizing before record with
  | nil =>
    obtain ⟨rfl, rfl⟩ := yields
    exact carried.nothing
  | cons entry entries inductionHypothesis =>
    obtain ⟨first, middle, last, round, rounds, rfl⟩ := yields_foldlM_cons.mp yields
    exact carried.trans (each entry List.mem_cons_self round)
      (inductionHypothesis (fun entry there => each entry (List.mem_cons_of_mem _ there)) rounds)

theorem visit (carried : Carried autoOnly holds) {depth : Nat} {name : String}
    (yields : (Starting.visit autoOnly depth before name).Yields record after) :
    Starting.Carries holds record before after := by
  induction depth generalizing before after record name with
  | zero =>
    obtain ⟨rfl, rfl⟩ := yields
    exact carried.nothing
  | succ depth inductionHypothesis =>
    by_cases unfailed : before.failure = none
    · cases found : before.left.get? name with
      | none =>
        rw [Starting.visit, unfailed, found] at yields
        obtain ⟨rfl, rfl⟩ := yields
        exact carried.nothing
      | some component =>
        rw [Starting.visit, unfailed, found] at yields
        obtain ⟨dependencies, resolved, instant, rest, rfl, answered⟩ := yields_ask_bind.mp yields
        obtain ⟨first, middle, last, descended, turned, rfl⟩ := yields_bind.mp answered
        have asked : Starting.Carries holds
            [⟨.dependencies name, dependencies, resolved, instant⟩] before
            { left := before.left.erase name } :=
          carried.questions unfailed rfl fun _ there => List.mem_singleton.mp there ▸ trivial
        have below := carried.foldlM (fun _ _ goes => inductionHypothesis goes) descended
        refine carried.trans asked (carried.trans below ?_)
        by_cases failed : middle.failure = none
        · rw [failed] at turned
          exact ⟨fun fine => carried.turn _ _ _ _ _ fine turned, fun broken => absurd failed broken⟩
        · rw [if_pos (Option.isSome_iff_ne_none.mpr failed)] at turned
          obtain ⟨rfl, rfl⟩ := turned
          exact carried.nothing
    · obtain ⟨rfl, rfl⟩ := Starting.yields_visit_of_failed unfailed yields
      exact carried.nothing

theorem group (carried : Carried autoOnly holds) {group sorted : Group} {left : WorkingSet}
    (mode : group.autoOnly = autoOnly) (yields : (group.start left).Yields record (sorted, after)) :
    Starting.Carries holds record { left } after := by
  subst mode
  obtain ⟨opening, visits, rfl, asides, -, starts⟩ := Group.yields_start yields
  have head : Starting.Carries holds opening { left } { left } :=
    carried.questions rfl rfl fun exchange there =>
      Request.isBetween_of_isOutset (Request.isOutset_of_isAside (asides exchange there))
  exact carried.trans head (carried.foldlM (fun _ _ goes => carried.visit goes) starts)

theorem groups (carried : Carried autoOnly holds) {groups : List Group}
    (mode : ∀ group ∈ groups, group.autoOnly = autoOnly)
    (yields : (startGroups groups before).Yields record after) :
    Starting.Carries holds record before after := by
  refine carried.foldlM (fun {before after record} group there goes => ?_) yields
  by_cases unfailed : before.failure = none
  · obtain ⟨left, failure⟩ := before
    obtain rfl : failure = none := unfailed
    obtain ⟨resolved, instant, _, rfl, opened⟩ := yields_note_bind.mp goes
    obtain ⟨started, ⟨sorted, ended⟩, _, starts, ⟨rfl, rfl⟩, rfl⟩ := yields_bind.mp opened
    have opening : Starting.Carries holds
        [⟨.note (.phaseOpened group.phase group.members.length), (), resolved, instant⟩] { left }
        { left } :=
      carried.questions rfl rfl fun _ there => List.mem_singleton.mp there ▸ trivial
    rw [List.append_nil]
    exact carried.trans opening (carried.group (mode group there) starts)
  · rw [if_pos (Option.isSome_iff_ne_none.mpr unfailed)] at goes
    obtain ⟨rfl, rfl⟩ := goes
    exact carried.nothing

/-- What a start pass carries along holds of the whole pass, with the failure that it ends with. -/
theorem startPass (carried : Carried autoOnly holds) {snapshot : List Member} {timeout : Nat}
    {outcome : Except LifecycleError Unit}
    (yields : (startPass snapshot timeout autoOnly).Yields record outcome) :
    ∃ failure, holds record failure ∧
      outcome = (match failure with | some error => .error error | none => .ok ()) := by
  obtain ⟨gathering, groups, started, starting, rfl, gathers, starts, ended⟩ := yields_startPass yields
  refine ⟨starting.failure, carried.append _ _ _ ?_ ?_, ended⟩
  · exact carried.between _ fun exchange there => Request.isBetween_of_isOutset
      (gathers.request_of_asks (asks_groupSnapshot snapshot timeout autoOnly) exchange there)
  · exact (carried.groups (fun group there => (settings_of_groupSnapshot gathers group there).2)
      starts).unfailed rfl

/-- What a start pass carries along holds of the whole pass, if it ends well. -/
theorem startPass_ok (carried : Carried autoOnly holds) {snapshot : List Member} {timeout : Nat}
    (yields : (PhasedLifecycle.startPass snapshot timeout autoOnly).Yields record (.ok ())) :
    holds record none := by
  obtain ⟨failure, held, ended⟩ := carried.startPass yields
  cases failure with
  | none => exact held
  | some error => cases ended

end Carried

/-! ### Only components that the pass was told to start -/

section

variable {autoOnly : Bool} {record first last : List Exchange} {component : Component}

/-- The pass was told to start the component: it starts any, or the component is not smart, or it said
that it starts by itself. -/
def Component.IsTaken (autoOnly : Bool) (record : List Exchange) (component : Component) : Prop :=
  autoOnly = true → component.capability = .smart →
    ∃ meanwhile instant, ⟨.isAutoStartup component, true, meanwhile, instant⟩ ∈ record

/-- The pass minds whether the component starts by itself, and the component said that it does not. -/
def Component.HasDeclined (autoOnly : Bool) (record : List Exchange) (component : Component) : Prop :=
  autoOnly = true ∧ component.capability = .smart ∧
    ∃ meanwhile instant, ⟨.isAutoStartup component, false, meanwhile, instant⟩ ∈ record

theorem Component.IsTaken.mono (taken : component.IsTaken autoOnly first) (inside : first ⊆ last) :
    component.IsTaken autoOnly last := by
  intro automatic smart
  obtain ⟨meanwhile, instant, there⟩ := taken automatic smart
  exact ⟨meanwhile, instant, inside there⟩

theorem Component.HasDeclined.mono (declined : component.HasDeclined autoOnly first)
    (inside : first ⊆ last) : component.HasDeclined autoOnly last := by
  obtain ⟨automatic, smart, meanwhile, instant, there⟩ := declined
  exact ⟨automatic, smart, meanwhile, instant, inside there⟩

/-- A component is wanted just as the pass was told. -/
theorem Component.told_of_yields {wanted : Bool}
    (yields : (component.isWanted autoOnly).Yields record wanted) :
    (wanted = true → component.IsTaken autoOnly record) ∧
      (wanted = false → component.HasDeclined autoOnly record) := by
  unfold isWanted isAutoStartup at yields
  cases autoOnly with
  | false =>
    obtain ⟨rfl, rfl⟩ := yields
    exact ⟨fun _ => nofun, nofun⟩
  | true =>
    cases capability : component.capability with
    | plain =>
      rw [capability] at yields
      obtain ⟨rfl, rfl⟩ := yields
      exact ⟨fun _ _ smart => Capability.noConfusion (capability.symm.trans smart), nofun⟩
    | phased =>
      rw [capability] at yields
      obtain ⟨rfl, rfl⟩ := yields
      exact ⟨fun _ _ smart => Capability.noConfusion (capability.symm.trans smart), nofun⟩
    | smart =>
      rw [capability] at yields
      obtain ⟨meanwhile, instant, rfl⟩ := yields_ask.mp yields
      refine ⟨?_, ?_⟩
      · rintro rfl - -
        exact ⟨meanwhile, instant, List.mem_cons_self⟩
      · rintro rfl
        exact ⟨rfl, capability, meanwhile, instant, List.mem_cons_self⟩

/-- Each call in the record starts a component that the pass was told to start, with success unless a
failure ends the record. -/
def CallsTaken (autoOnly : Bool) (record : List Exchange) (failure : Option LifecycleError) : Prop :=
  ∀ call ∈ callsIn record, ∃ component reason, call = .start component reason ∧
    component.IsTaken autoOnly record ∧ (failure = none → reason = none)

theorem callsIn_of_isBetween (between : ∀ exchange ∈ record, exchange.request.isBetween) :
    callsIn record = [] := by
  refine List.filterMap_eq_nil_iff.mpr fun exchange there => ?_
  have itself := between exchange there
  obtain ⟨request, answer, meanwhile, instant⟩ := exchange
  cases request <;> first | rfl | exact itself.elim

/-- A launch is one start, and its reason is the failure that it ends with. -/
theorem Starting.callsIn_launch {name : String} {before after : Starting}
    (unfailed : before.failure = none)
    (yields : (launch name component before).Yields record after) :
    ∃ reason, callsIn record = [.start component reason] ∧
      after.failure = reason.map (.startFailed name) := by
  obtain ⟨_, _, _, rfl, launched⟩ := yields_note_bind.mp yields
  obtain ⟨reason, _, _, _, rfl, ended⟩ := yields_ask_bind.mp launched
  cases reason with
  | some reason =>
    obtain ⟨rfl, rfl⟩ := ended
    exact ⟨some reason, rfl, rfl⟩
  | none =>
    obtain ⟨_, _, _, rfl, rfl, rfl⟩ := yields_note_bind.mp ended
    exact ⟨none, rfl, unfailed⟩

/-- A start pass carries along that it calls only what it was told to start. -/
theorem carried_callsTaken : Carried autoOnly (CallsTaken autoOnly) where
  between := fun record between call called => by
    rw [callsIn_of_isBetween between] at called
    exact absurd called List.not_mem_nil
  append := fun first last failure holdsFirst holdsLast call called => by
    rw [callsIn, List.filterMap_append] at called
    rcases List.mem_append.mp called with called | called
    · obtain ⟨component, reason, its, taken, fine⟩ := holdsFirst call called
      exact ⟨component, reason, its, taken.mono (List.subset_append_left _ _), fun _ => fine rfl⟩
    · obtain ⟨component, reason, its, taken, fine⟩ := holdsLast call called
      exact ⟨component, reason, its, taken.mono (List.subset_append_right _ _), fine⟩
  turn := fun name component starting record result unfailed yields call called => by
    obtain ⟨ran, _, _, rest, rfl, answered⟩ := yields_ask_bind.mp yields
    cases ran with
    | true =>
      obtain ⟨rfl, -⟩ := answered
      exact absurd called List.not_mem_nil
    | false =>
      obtain ⟨asked, wanted, last, asks, goesOn, rfl⟩ := yields_bind.mp answered
      have unasked : callsIn asked = [] := callsIn_of_isBetween fun exchange there =>
        Request.isBetween_of_isOutset
          (asks.request_of_asks (component.asks_isWanted fun _ _ => trivial) exchange there)
      rw [callsIn, List.filterMap_cons, List.filterMap_append] at called
      replace called : call ∈ callsIn asked ++ callsIn last := called
      rw [unasked] at called
      cases wanted with
      | false =>
        obtain ⟨rfl, -⟩ := goesOn
        exact absurd called List.not_mem_nil
      | true =>
        obtain ⟨reason, one, failure⟩ := Starting.callsIn_launch unfailed goesOn
        rw [one] at called
        refine ⟨component, reason, List.mem_singleton.mp called,
          ((Component.told_of_yields asks).1 rfl).mono ?_, fun fine => ?_⟩
        · exact fun exchange there => List.mem_cons_of_mem _ (List.mem_append_left _ there)
        · exact Option.map_eq_none_iff.mp (failure.symm.trans fine)

end

end PhasedLifecycle
