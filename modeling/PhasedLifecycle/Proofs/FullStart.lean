/-
This file shows that a start pass that ends well leaves nothing out. Whatever the registry answers, a
component that it comes to, that does not run and that may be started, is started before the pass ends
well; and every listed component that may be started is come to.
-/

import PhasedLifecycle.Proofs.Activity
import PhasedLifecycle.Proofs.Robustness
import PhasedLifecycle.Proofs.StartStretches

namespace PhasedLifecycle

open Pass

/-! ### Components that may be started -/

/-- A start pass may start the component: it starts any, or the component starts by itself. -/
def Component.IsMeant (auto : Component → Bool) (autoOnly : Bool) (component : Component) : Prop :=
  autoOnly = true → component.capability = .smart → auto component = true

theorem Component.wanted_of_yields {auto : Component → Bool} {autoOnly wanted : Bool}
    {component : Component} {record : List Exchange}
    (yields : (component.isWanted autoOnly).Yields record wanted)
    (autos : ∀ exchange ∈ record, exchange.KeepsAutos auto) (meant : component.IsMeant auto autoOnly) :
    wanted = true := by
  unfold isWanted isAutoStartup at yields
  cases autoOnly with
  | false => exact yields.2
  | true =>
    cases capability : component.capability with
    | plain =>
      rw [capability] at yields
      exact yields.2
    | phased =>
      rw [capability] at yields
      exact yields.2
    | smart =>
      rw [capability] at yields
      obtain ⟨meanwhile, instant, rfl⟩ := yields_ask.mp yields
      exact (autos _ List.mem_cons_self).trans (meant rfl capability)

/-- Whatever is found not running in the record, though it may be started, is started in it. -/
def Serves (auto : Component → Bool) (autoOnly : Bool) (record : List Exchange) : Prop :=
  ∀ component meanwhile instant, ⟨.isRunning component, false, meanwhile, instant⟩ ∈ record →
    component.IsMeant auto autoOnly → Call.start component none ∈ callsIn record

section

variable {auto : Component → Bool} {autoOnly : Bool} {record first last : List Exchange}
  {before after : Starting}

theorem Serves.append (head : Serves auto autoOnly first) (tail : Serves auto autoOnly last) :
    Serves auto autoOnly (first ++ last) := by
  intro component meanwhile instant there meant
  rw [callsIn_append]
  rcases List.mem_append.mp there with there | there
  · exact List.mem_append_left _ (head component meanwhile instant there meant)
  · exact List.mem_append_right _ (tail component meanwhile instant there meant)

/-- A question that does not ask whether a component runs. -/
def Request.isElse : Request → Prop
  | .isRunning _ => False
  | _ => True

theorem Request.isElse_of_isBetween {request : Request} (between : request.isBetween) :
    request.isElse := by
  cases request <;> trivial

theorem Starting.isElse_launch {name : String} {component : Component}
    (yields : (launch name component before).Yields record after) :
    ∀ exchange ∈ record, exchange.request.isElse := by
  refine yields.request_of_asks (asks_bind (asks_ask trivial) fun _ =>
    asks_bind (asks_ask trivial) fun reason => ?_)
  cases reason with
  | some reason => exact asks_pure _ _
  | none => exact asks_bind (asks_ask trivial) fun _ => asks_pure _ _

/-- A turn that ends well serves its component. -/
theorem Starting.serves_turn {name : String} {component : Component} (unfailed : before.failure = none)
    (fine : after.failure = none) (autos : ∀ exchange ∈ record, exchange.KeepsAutos auto)
    (yields : (turn autoOnly name component before).Yields record after) :
    Serves auto autoOnly record := by
  obtain ⟨ran, _, _, rest, rfl, answered⟩ := yields_ask_bind.mp yields
  cases ran with
  | true =>
    obtain ⟨rfl, -⟩ := answered
    intro other _ _ there
    cases List.mem_singleton.mp there
  | false =>
    obtain ⟨asked, wanted, called, asks, goesOn, rfl⟩ := yields_bind.mp answered
    have quiet : ∀ exchange ∈ asked, exchange.request.isElse :=
      asks.request_of_asks (component.asks_isWanted fun _ _ => trivial)
    intro other resolved moment there meant
    rcases List.mem_cons.mp there with its | there
    · cases its
      obtain rfl := component.wanted_of_yields asks (fun exchange there => autos exchange
        (List.mem_cons_of_mem _ (List.mem_append_left _ there))) meant
      obtain ⟨reason, one, failure⟩ := callsIn_launch unfailed goesOn
      obtain rfl : reason = none := Option.map_eq_none_iff.mp (failure.symm.trans fine)
      rw [← List.singleton_append, callsIn_append, callsIn_append, one]
      exact List.mem_append_right _ (List.mem_append_right _ List.mem_cons_self)
    · rcases List.mem_append.mp there with there | there
      · exact (quiet _ there).elim
      · cases wanted with
        | true => exact (isElse_launch goesOn _ there).elim
        | false =>
          obtain ⟨rfl, -⟩ := goesOn
          exact absurd there List.not_mem_nil

/-- A start pass carries along that it serves whatever it comes to, as long as nothing fails. -/
theorem carried_serves : Carried autoOnly fun record failure =>
    (∀ exchange ∈ record, exchange.KeepsAutos auto) → failure = none → Serves auto autoOnly record where
  between := fun _ between _ _ _ _ _ there => (Request.isElse_of_isBetween (between _ there)).elim
  append := fun _ _ _ servesFirst servesLast autos fine =>
    (servesFirst (fun exchange there => autos exchange (List.mem_append_left _ there)) rfl).append
      (servesLast (fun exchange there => autos exchange (List.mem_append_right _ there)) fine)
  turn := fun _ _ _ _ _ unfailed yields autos fine => Starting.serves_turn unfailed fine autos yields

/-- A start pass that ends well has started whatever it found not running that may be started. -/
theorem serves_startPass {snapshot : List Member} {timeout : Nat}
    (yields : (startPass snapshot timeout autoOnly).Yields record (.ok ()))
    (autos : ∀ exchange ∈ record, exchange.KeepsAutos auto) : Serves auto autoOnly record :=
  carried_serves.startPass_ok yields autos rfl

/-! ### Nothing is left out -/

/-- Gathering keeps the members that it has, and takes in what a name stands for if it may be started. -/
theorem members_gather {set : WorkingSet} {timeout : Nat} {groups result : List Group} {listed : Member}
    (yields : (gather set timeout autoOnly groups listed).Yields record result)
    (autos : ∀ exchange ∈ record, exchange.KeepsAutos auto) :
    groups.flatMap (·.members) ⊆ result.flatMap (·.members) ∧
      ∀ component, set.get? listed.name = some component → component.IsMeant auto autoOnly →
        ⟨listed.name, component⟩ ∈ result.flatMap (·.members) := by
  unfold gather at yields
  cases found : set.get? listed.name with
  | none =>
    rw [found] at yields
    obtain ⟨-, rfl⟩ := yields
    exact ⟨List.Subset.refl _, nofun⟩
  | some component =>
    rw [found] at yields
    obtain ⟨asked, wanted, _, asks, goesOn, rfl⟩ := yields_bind.mp yields
    cases wanted with
    | true =>
      obtain ⟨_, phase, _, -, ⟨-, rfl⟩, -⟩ := yields_bind.mp goesOn
      have joined := flatMap_members_addToGroups { phase, timeout, autoOnly } rfl
        ⟨listed.name, component⟩ groups
      refine ⟨fun member there => joined.symm.subset (List.mem_append_left _ there), ?_⟩
      rintro _ ⟨⟩ -
      exact joined.symm.subset (List.mem_append_right _ List.mem_cons_self)
    | false =>
      obtain ⟨-, rfl⟩ := goesOn
      refine ⟨List.Subset.refl _, ?_⟩
      rintro _ ⟨⟩ meant
      cases component.wanted_of_yields asks
        (fun exchange there => autos exchange (List.mem_append_left _ there)) meant

/-- What a listed name stands for is a member of a group if it may be started. Whatever was gathered
before it is come to, it is taken in then and stays. -/
theorem mem_members_of_isMeant {snapshot : List Member} {timeout : Nat} {groups : List Group}
    (yields : (groupSnapshot snapshot timeout autoOnly).Yields record groups)
    (autos : ∀ exchange ∈ record, exchange.KeepsAutos auto) {listed : Member}
    (inside : listed ∈ snapshot) {component : Component}
    (stands : (WorkingSet.ofList snapshot).get? listed.name = some component)
    (meant : component.IsMeant auto autoOnly) :
    ⟨listed.name, component⟩ ∈ groups.flatMap (·.members) := by
  have gathers : ∀ (members : List Member) (start result : List Group) (record : List Exchange),
      (members.foldlM (gather (WorkingSet.ofList snapshot) timeout autoOnly) start).Yields record
        result →
      (∀ exchange ∈ record, exchange.KeepsAutos auto) →
        start.flatMap (·.members) ⊆ result.flatMap (·.members) ∧
          (listed ∈ members → ⟨listed.name, component⟩ ∈ result.flatMap (·.members)) := by
    intro members
    induction members with
    | nil =>
      rintro start result record ⟨-, rfl⟩ -
      exact ⟨List.Subset.refl _, nofun⟩
    | cons head members inductionHypothesis =>
      intro start result record yields autos
      obtain ⟨first, middle, last, one, others, rfl⟩ := yields_foldlM_cons.mp yields
      obtain ⟨keeps, takes⟩ := members_gather one fun exchange there =>
        autos exchange (List.mem_append_left _ there)
      obtain ⟨keepsLater, takesLater⟩ := inductionHypothesis middle result last others
        fun exchange there => autos exchange (List.mem_append_right _ there)
      refine ⟨fun _ there => keepsLater (keeps there), fun there => ?_⟩
      rcases List.mem_cons.mp there with rfl | there
      · exact keepsLater (takes component stands meant)
      · exact takesLater there
  exact (gathers snapshot [] groups record yields autos).2 inside

/-- In the turn of a component the pass asks whether it runs. -/
theorem mem_of_mem_turnsIn {turn : Turn} (there : turn ∈ turnsIn record) :
    ∃ meanwhile instant, ⟨.isRunning turn.component, turn.ran, meanwhile, instant⟩ ∈ record := by
  rw [turnsIn, List.mem_reverse] at there
  induction record using List.reverseRecOn generalizing turn with
  | nil => exact absurd there List.not_mem_nil
  | append_singleton record exchange inductionHypothesis =>
    rw [Docket.readAll_append] at there
    rcases Docket.mem_turns_read there with ⟨earlier, earlierThere, component, ran, -⟩ |
      ⟨-, -, meanwhile, instant, rfl⟩
    · obtain ⟨meanwhile, instant, asked⟩ := inductionHypothesis earlierThere
      rw [component, ran] at asked
      exact ⟨meanwhile, instant, List.mem_append_left _ asked⟩
    · exact ⟨meanwhile, instant, List.mem_append_right _ List.mem_cons_self⟩

/-- In a start pass that ends well, each listed component that may be started has a turn, in which it
ran already or was started. -/
theorem exists_turn_of_isMeant {snapshot : List Member} {timeout : Nat}
    (once : (snapshot.map (·.name)).Nodup)
    (yields : (startPass snapshot timeout autoOnly).Yields record (.ok ()))
    (autos : ∀ exchange ∈ record, exchange.KeepsAutos auto) {member : Member}
    (listed : member ∈ snapshot) (meant : member.component.IsMeant auto autoOnly) :
    ∃ turn ∈ turnsIn record, turn.component = member.component ∧
      (turn.ran = false → Call.start member.component none ∈ callsIn record) := by
  obtain ⟨gathering, groups, started, starting, entered, place, gathers, span, -, all⟩ :=
    span_startPass yields
  have stands := WorkingSet.get?_ofList_of_mem once listed
  have grouped := mem_members_of_isMeant gathers
    (fun exchange there => autos exchange (place ▸ List.mem_append_left _ there)) listed stands meant
  obtain ⟨group, inGroups, inGroup⟩ := List.mem_flatMap.mp grouped
  obtain ⟨turn, there, name⟩ := List.mem_map.mp (all rfl group inGroups _ inGroup)
  have drawn := span.drawn turn there
  rw [name, stands] at drawn
  have its : turn.component = member.component := (Option.some.inj drawn).symm
  refine ⟨turn, there, its, fun idle => ?_⟩
  obtain ⟨meanwhile, instant, asked⟩ := mem_of_mem_turnsIn there
  rw [its, idle] at asked
  exact serves_startPass yields autos _ _ _ asked meant

end

end PhasedLifecycle
