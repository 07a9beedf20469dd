/-
This file says what a start pass does, whatever the registry answers: it may list names in circles,
name strangers, and answer differently each time. A span is a stretch of the pass. It takes some names
out of the working set and gives each of them one turn, but for those that a failure overtakes: the
pass has gone down from them, and does not come back. Two spans in a row make one span, so a pass is a
span because each of its steps is one.
-/

import PhasedLifecycle.Proofs.StartOrder

namespace PhasedLifecycle

open Pass

/-! ### Spans -/

/-- What a stretch of a start pass does. Its turns are of distinct names drawn from the working set;
the names still entered at its end are out of the working set without a turn, and there are none
unless a component failed to start. -/
structure StartSpan (autoOnly : Bool) (record : List Exchange) (before after : Starting)
    (turns : List Turn) (entered : List String) : Prop where
  reads : ∀ docket : Docket, docket.readAll record =
    { docket with entered := entered ++ docket.entered, turns := turns.reverse ++ docket.turns }
  left : after.left = before.left.without (entered ++ turns.map (·.name))
  once : (turns.map (·.name)).Nodup
  drawn : ∀ turn ∈ turns, before.left.get? turn.name = some turn.component
  kinds : ∀ turn ∈ turns, ∃ failure, StartTurn autoOnly turn failure
  closed : after.failure = none → before.failure = none ∧ entered = []

namespace StartSpan

variable {autoOnly : Bool} {record first last : List Exchange} {before middle after : Starting}
  {turns others : List Turn} {entered more : List String}

theorem refl (autoOnly : Bool) (starting : Starting) :
    StartSpan autoOnly [] starting starting [] [] where
  reads := fun _ => rfl
  left := (WorkingSet.without_nil _).symm
  once := List.nodup_nil
  drawn := fun _ there => absurd there List.not_mem_nil
  kinds := fun _ there => absurd there List.not_mem_nil
  closed := fun unfailed => ⟨unfailed, rfl⟩

/-- What is left after a stretch was left before. -/
theorem mem_names (span : StartSpan autoOnly record before after turns entered) {name : String}
    (there : name ∈ after.left.names) : name ∈ before.left.names := by
  rw [span.left] at there
  exact ((WorkingSet.mem_names_without _ _ _).mp there).1

/-- Two stretches in a row are one. -/
theorem trans (head : StartSpan autoOnly first before middle turns entered)
    (tail : StartSpan autoOnly last middle after others more) :
    StartSpan autoOnly (first ++ last) before after (turns ++ others) (more ++ entered) where
  reads := fun docket => by
    rw [Docket.readAll_append, head.reads, tail.reads, List.reverse_append, List.append_assoc,
      List.append_assoc]
  left := by
    rw [tail.left, head.left, WorkingSet.without_without]
    refine WorkingSet.without_congr _ fun name => ?_
    simp only [List.map_append, List.mem_append]
    tauto
  once := by
    rw [List.map_append]
    refine List.nodup_append.mpr ⟨head.once, tail.once, ?_⟩
    rintro name early other late rfl
    obtain ⟨turn, there, rfl⟩ := List.mem_map.mp late
    have found := tail.drawn turn there
    rw [head.left] at found
    exact (WorkingSet.get?_without found).1 (List.mem_append_right _ early)
  drawn := by
    intro turn there
    rcases List.mem_append.mp there with there | there
    · exact head.drawn turn there
    · have found := tail.drawn turn there
      rw [head.left] at found
      exact (WorkingSet.get?_without found).2
  kinds := fun turn there => (List.mem_append.mp there).elim (head.kinds turn) (tail.kinds turn)
  closed := fun unfailed => by
    obtain ⟨unfailedBefore, rfl⟩ := tail.closed unfailed
    obtain ⟨unfailedFirst, rfl⟩ := head.closed unfailedBefore
    exact ⟨unfailedFirst, rfl⟩

/-- The stretch from taking a name out of the working set to the failure of a component below it. -/
theorem overtaken {name : String} {dependencies : List String} {resolved : List Resolution}
    {instant : Nat} (failed : after.failure ≠ none)
    (below : StartSpan autoOnly record { left := before.left.erase name } after turns entered) :
    StartSpan autoOnly (⟨.dependencies name, dependencies, resolved, instant⟩ :: record) before after
      turns (entered ++ [name]) where
  reads := fun docket => by
    rw [Docket.readAll_cons, below.reads, List.append_assoc]
    rfl
  left := by
    rw [below.left, WorkingSet.erase_eq_without, WorkingSet.without_without]
    refine WorkingSet.without_congr _ fun other => ?_
    simp only [List.mem_append, List.mem_singleton]
    tauto
  once := below.once
  drawn := fun turn there => by
    have found := below.drawn turn there
    rw [WorkingSet.erase_eq_without] at found
    exact (WorkingSet.get?_without found).2
  kinds := below.kinds
  closed := fun unfailed => absurd unfailed failed

/-- The stretch from taking a name out of the working set to the end of its turn. -/
theorem close {turn : Turn} {failure : Option LifecycleError} {dependencies : List String}
    {resolved : List Resolution} {instant : Nat} (unfailed : before.failure = none)
    (drawn : before.left.get? turn.name = some turn.component) (kind : StartTurn autoOnly turn failure)
    (below : StartSpan autoOnly first { left := before.left.erase turn.name } middle turns [])
    (reads : ∀ entered turns strays,
      ({ entered := turn.name :: entered, turns, strays } : Docket).readAll last =
        { entered, turns := turn :: turns, strays }) :
    StartSpan autoOnly (⟨.dependencies turn.name, dependencies, resolved, instant⟩ :: (first ++ last))
      before { middle with failure } (turns ++ [turn]) [] where
  reads := fun docket => by
    rw [Docket.readAll_cons, Docket.readAll_append, below.reads]
    refine (reads _ _ _).trans ?_
    rw [List.reverse_append]
    rfl
  left := by
    show middle.left = _
    rw [below.left, WorkingSet.erase_eq_without, WorkingSet.without_without]
    refine WorkingSet.without_congr _ fun name => ?_
    simp only [List.map_append, List.map_singleton, List.mem_append, List.mem_singleton]
    tauto
  once := by
    rw [List.map_append]
    refine List.nodup_append.mpr ⟨below.once, List.nodup_singleton _, ?_⟩
    rintro name early other late rfl
    obtain ⟨earlier, there, rfl⟩ := List.mem_map.mp early
    have found := below.drawn earlier there
    rw [List.mem_singleton.mp late, WorkingSet.get?_erase_self] at found
    cases found
  drawn := by
    intro other there
    rcases List.mem_append.mp there with there | there
    · have found := below.drawn other there
      rw [WorkingSet.erase_eq_without] at found
      exact (WorkingSet.get?_without found).2
    · rw [List.mem_singleton.mp there]
      exact drawn
  kinds := by
    intro other there
    rcases List.mem_append.mp there with there | there
    · exact below.kinds other there
    · rw [List.mem_singleton.mp there]
      exact ⟨failure, kind⟩
  closed := fun _ => ⟨unfailed, rfl⟩

/-- A loop of spans is a span. What a round takes out of the working set, unless a component fails, is
out of it at the end. -/
theorem foldlM {Entry : Type} {step : Starting → Entry → Pass Starting}
    (drains : Entry → String → Prop) {entries : List Entry}
    (each : ∀ {starting result record}, ∀ entry ∈ entries, (step starting entry).Yields record result →
      ∃ turns entered, StartSpan autoOnly record starting result turns entered ∧
        (result.failure = none → ∀ name, drains entry name → name ∉ result.left.names))
    (yields : (entries.foldlM step before).Yields record after) :
    ∃ turns entered, StartSpan autoOnly record before after turns entered ∧
      (after.failure = none → ∀ entry ∈ entries, ∀ name, drains entry name →
        name ∉ after.left.names) := by
  induction entries generalizing before record with
  | nil =>
    obtain ⟨rfl, rfl⟩ := yields
    exact ⟨[], [], refl autoOnly _, fun _ entry there => absurd there List.not_mem_nil⟩
  | cons entry entries inductionHypothesis =>
    obtain ⟨first, middle, last, round, rounds, rfl⟩ := yields_foldlM_cons.mp yields
    obtain ⟨turns, entered, head, drained⟩ := each entry List.mem_cons_self round
    obtain ⟨others, more, tail, drainedLater⟩ := inductionHypothesis
      (fun entry there => each entry (List.mem_cons_of_mem _ there)) rounds
    refine ⟨turns ++ others, more ++ entered, head.trans tail, fun unfailed other there name drains => ?_⟩
    rcases List.mem_cons.mp there with rfl | there
    · exact mt tail.mem_names (drained (tail.closed unfailed).1 name drains)
    · exact drainedLater unfailed other there name drains

/-- Going down from a name is a span, and takes the name out of the working set, unless a component
fails. -/
theorem visit {depth : Nat} {name : String}
    (yields : (Starting.visit autoOnly depth before name).Yields record after) :
    ∃ turns entered, StartSpan autoOnly record before after turns entered ∧
      (0 < depth → after.failure = none → name ∉ after.left.names) := by
  induction depth generalizing before after record name with
  | zero =>
    obtain ⟨rfl, rfl⟩ := yields
    exact ⟨[], [], refl autoOnly _, fun positive => absurd positive (Nat.lt_irrefl 0)⟩
  | succ depth inductionHypothesis =>
    by_cases unfailed : before.failure = none
    · cases found : before.left.get? name with
      | none =>
        rw [Starting.visit, unfailed, found] at yields
        obtain ⟨rfl, rfl⟩ := yields
        exact ⟨[], [], refl autoOnly _, fun _ _ => (WorkingSet.get?_eq_none_iff _ _).mp found⟩
      | some component =>
        rw [Starting.visit, unfailed, found] at yields
        obtain ⟨dependencies, resolved, instant, rest, rfl, answered⟩ := yields_ask_bind.mp yields
        obtain ⟨first, middle, last, descended, turned, rfl⟩ := yields_bind.mp answered
        obtain ⟨turns, entered, below, -⟩ := foldlM (fun _ _ => False)
          (fun next _ goes => by
            obtain ⟨turns, entered, span, -⟩ := inductionHypothesis goes
            exact ⟨turns, entered, span, fun _ _ drains => drains.elim⟩) descended
        have gone : name ∉ middle.left.names := fun there =>
          ((WorkingSet.mem_names_erase _ _ _).mp (below.mem_names there)).2 rfl
        by_cases failed : middle.failure = none
        · rw [failed] at turned
          obtain ⟨turn, failure, rfl, rfl, kind, rfl, reads⟩ := Starting.yields_turn failed turned
          obtain ⟨-, rfl⟩ := below.closed failed
          exact ⟨_, _, close unfailed found kind below reads, fun _ _ => gone⟩
        · rw [if_pos (Option.isSome_iff_ne_none.mpr failed)] at turned
          obtain ⟨rfl, rfl⟩ := turned
          rw [List.append_nil]
          exact ⟨_, _, overtaken failed below, fun _ unfailed => absurd unfailed failed⟩
    · obtain ⟨rfl, rfl⟩ := Starting.yields_visit_of_failed unfailed yields
      exact ⟨[], [], refl autoOnly _, fun _ clean => absurd clean unfailed⟩

/-- Starting a name is a span that takes it out of the working set, unless a component fails. -/
theorem start {name : String} (yields : (before.start autoOnly name).Yields record after) :
    ∃ turns entered, StartSpan autoOnly record before after turns entered ∧
      (after.failure = none → name ∉ after.left.names) := by
  obtain ⟨turns, entered, span, drained⟩ := visit yields
  refine ⟨turns, entered, span, fun unfailed there => ?_⟩
  obtain ⟨member, inside, -⟩ := List.mem_map.mp (span.mem_names there)
  exact drained (List.length_pos_of_mem inside) unfailed there

/-- Questions that belong to no turn are a span. -/
theorem aside (autoOnly : Bool) (starting : Starting)
    (aside : ∀ exchange ∈ record, exchange.request.isAside) :
    StartSpan autoOnly record starting starting [] [] :=
  { refl autoOnly starting with reads := Docket.readAll_of_isAside aside }

/-- Starting a group is a span that takes its members out of the working set, unless a component
fails. -/
theorem group {group sorted : Group} {left : WorkingSet}
    (yields : (group.start left).Yields record (sorted, after)) :
    ∃ turns entered, StartSpan group.autoOnly record { left } after turns entered ∧
      (after.failure = none → ∀ member ∈ group.members, member.name ∉ after.left.names) := by
  obtain ⟨opening, visits, rfl, asides, sortedIn, starts⟩ := Group.yields_start yields
  obtain ⟨turns, entered, span, drained⟩ := foldlM (fun name other => other = name)
    (fun name _ goes => by
      obtain ⟨turns, entered, span, drained⟩ := start goes
      exact ⟨turns, entered, span, fun unfailed _ same => same ▸ drained unfailed⟩) starts
  refine ⟨_, _, (aside group.autoOnly _ asides).trans span, fun unfailed member there => ?_⟩
  exact drained unfailed member.name
    (List.mem_map_of_mem (sortedIn.rearranged.members.mem_iff.mpr there)) member.name rfl

/-- Starting groups is a span that takes all their members out of the working set, unless a component
fails. -/
theorem groups {groups : List Group} (mode : ∀ group ∈ groups, group.autoOnly = autoOnly)
    (yields : (startGroups groups before).Yields record after) :
    ∃ turns entered, StartSpan autoOnly record before after turns entered ∧
      (after.failure = none → ∀ group ∈ groups, ∀ member ∈ group.members,
        member.name ∉ after.left.names) := by
  have each : ∀ {starting result : Starting} {record : List Exchange}, ∀ group ∈ groups,
      (do
        if starting.failure.isSome then return starting
        Pass.note (.phaseOpened group.phase group.members.length)
        return (← group.start starting.left).2 : Pass Starting).Yields record result →
      ∃ turns entered, StartSpan autoOnly record starting result turns entered ∧
        (result.failure = none → ∀ name, (∃ member ∈ group.members, member.name = name) →
          name ∉ result.left.names) := by
    intro starting result record group there goes
    by_cases unfailed : starting.failure = none
    · obtain ⟨left, failure⟩ := starting
      obtain rfl : failure = none := unfailed
      obtain ⟨_, _, _, rfl, opened⟩ := yields_note_bind.mp goes
      obtain ⟨started, ⟨sorted, ended⟩, _, starts, ⟨rfl, rfl⟩, rfl⟩ := yields_bind.mp opened
      obtain ⟨turns, entered, span, drained⟩ := StartSpan.group starts
      rw [mode group there] at span
      rw [List.append_nil, ← List.singleton_append]
      refine ⟨_, _, (aside _ _ fun exchange there => ?_).trans span,
        fun unfailed _ ⟨member, inside, same⟩ => same ▸ drained unfailed member inside⟩
      rw [List.mem_singleton.mp there]
      exact trivial
    · rw [if_pos (Option.isSome_iff_ne_none.mpr unfailed)] at goes
      obtain ⟨rfl, rfl⟩ := goes
      exact ⟨[], [], refl autoOnly _, fun clean => absurd clean unfailed⟩
  obtain ⟨turns, entered, span, drained⟩ := foldlM
    (fun (group : Group) name => ∃ member ∈ group.members, member.name = name) each yields
  exact ⟨turns, entered, span, fun unfailed group there member inside =>
    drained unfailed group there member.name ⟨member, inside, rfl⟩⟩

end StartSpan

/-! ### Whole passes -/

/-- A start pass is a span from the set of the snapshot. If no component fails, all members of its
groups have a turn in it. -/
theorem span_startPass {snapshot : List Member} {timeout : Nat} {autoOnly : Bool}
    {record : List Exchange} {outcome : Except LifecycleError Unit}
    (yields : (startPass snapshot timeout autoOnly).Yields record outcome) :
    ∃ gathering groups started starting entered, record = gathering ++ started ∧
      (groupSnapshot snapshot timeout autoOnly).Yields gathering groups ∧
      StartSpan autoOnly started { left := WorkingSet.ofList snapshot } starting (turnsIn record)
        entered ∧
      (({} : Docket).readAll record).strays = [] ∧
      (outcome = .ok () → ∀ group ∈ groups, ∀ member ∈ group.members,
        member.name ∈ (turnsIn record).map (·.name)) := by
  obtain ⟨gathering, groups, started, starting, rfl, gathers, starts, ended⟩ := yields_startPass yields
  obtain ⟨turns, entered, span, drained⟩ := StartSpan.groups
    (fun group there => (settings_of_groupSnapshot gathers group there).2) starts
  have reads : ({} : Docket).readAll (gathering ++ started) = ⟨entered, turns.reverse, []⟩ := by
    rw [Docket.readAll_append, Docket.readAll_of_isOutset
      (gathers.request_of_asks (asks_groupSnapshot snapshot timeout autoOnly)), span.reads]
    simp
  have its : turnsIn (gathering ++ started) = turns := by rw [turnsIn, reads, List.reverse_reverse]
  rw [its]
  refine ⟨gathering, groups, started, starting, entered, rfl, gathers, span, by rw [reads],
    fun fine group there member inside => ?_⟩
  have unfailed : starting.failure = none := by
    cases failure : starting.failure with
    | none => rfl
    | some error =>
      rw [fine, failure] at ended
      cases ended
  have gone := drained unfailed group there member inside
  rw [span.left, WorkingSet.mem_names_without, (span.closed unfailed).2, List.nil_append] at gone
  by_contra absent
  exact gone ⟨WorkingSet.mem_names_of_get? (get?_of_groupSnapshot gathers group there member inside),
    absent⟩

end PhasedLifecycle
