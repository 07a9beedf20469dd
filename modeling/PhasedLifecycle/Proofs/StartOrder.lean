/-
This file shows in which order a start pass starts components, whatever phases they answer and
whichever of them run already or decline to start. With a registry that answers each question in
one way throughout, a start pass follows the search of `Descent`: the turns of components come in
the order of that search, until a component refuses to start and nothing more has its turn.

So a component on no circle of dependencies is started only after everything it leads to was
handled: it ran, it declined, or it was started in its own turn.
-/

import PhasedLifecycle.Proofs.Descent
import PhasedLifecycle.Proofs.Groups
import PhasedLifecycle.Proofs.Habits

namespace PhasedLifecycle

open Pass Relation

/-! ### The turn of one component -/

/-- What the turn of a component can be in a start pass, and the failure that it ends with. -/
inductive StartTurn (autoOnly : Bool) : Turn → Option LifecycleError → Prop
  | running (name : String) (component : Component) :
    StartTurn autoOnly { name, component, ran := true } none
  | declining (name : String) (component : Component) (automatic : autoOnly = true) :
    StartTurn autoOnly { name, component, ran := false, auto := some false } none
  | starting (name : String) (component : Component) (auto : Option Bool) :
    StartTurn autoOnly
      { name, component, ran := false, auto, calls := [.start component none] } none
  | failing (name : String) (component : Component) (auto : Option Bool) (reason : String) :
    StartTurn autoOnly
      { name, component, ran := false, auto, calls := [.start component (some reason)] }
      (some (.startFailed name reason))

/-- The pass has nothing more to do for the component of the turn: it ran when its turn came, it
declined to start by itself and the pass starts no others, or it was started. -/
def Turn.IsHandled (autoOnly : Bool) (turn : Turn) : Prop :=
  turn.ran = true ∨ (autoOnly = true ∧ turn.auto = some false) ∨
    Call.start turn.component none ∈ turn.calls

theorem StartTurn.isHandled {autoOnly : Bool} {turn : Turn} (kind : StartTurn autoOnly turn none) :
    turn.IsHandled autoOnly := by
  cases kind with
  | running name component => exact Or.inl rfl
  | declining name component automatic => exact Or.inr (Or.inl ⟨automatic, rfl⟩)
  | starting name component auto => exact Or.inr (Or.inr List.mem_cons_self)

/-- The answer of a component about starting by itself is noted in its turn, if it is asked. -/
theorem Component.yields_isWanted {autoOnly : Bool} {component : Component}
    {record : List Exchange} {wanted : Bool}
    (yields : (component.isWanted autoOnly).Yields record wanted) :
    ∃ auto, (wanted = false → autoOnly = true ∧ auto = some false) ∧
      ∀ entered turn turns strays, turn.auto = none →
        ({ entered, turns := turn :: turns, strays } : Docket).readAll record =
          { entered, turns := { turn with auto } :: turns, strays } := by
  unfold isWanted isAutoStartup at yields
  have unasked : record = [] → wanted = true →
      ∃ auto, (wanted = false → autoOnly = true ∧ auto = some false) ∧
        ∀ entered turn turns strays, turn.auto = none →
          ({ entered, turns := turn :: turns, strays } : Docket).readAll record =
            { entered, turns := { turn with auto } :: turns, strays } := by
    rintro rfl rfl
    refine ⟨none, fun declined => Bool.noConfusion declined,
      fun entered turn turns strays bare => ?_⟩
    obtain ⟨name, component, ran, auto, calls⟩ := turn
    obtain rfl : auto = none := bare
    rfl
  cases autoOnly with
  | false => exact unasked yields.1 yields.2
  | true =>
    cases isSmart : component.capability with
    | plain =>
      rw [isSmart] at yields
      exact unasked yields.1 yields.2
    | phased =>
      rw [isSmart] at yields
      exact unasked yields.1 yields.2
    | smart =>
      rw [isSmart] at yields
      obtain ⟨meanwhile, instant, rfl⟩ := yields_ask.mp yields
      exact ⟨some wanted, fun declined => ⟨rfl, by rw [declined]⟩, fun _ _ _ _ _ => rfl⟩

/-- A launch is one call in the turn at hand, and its reason ends the pass. -/
theorem Starting.yields_launch {name : String} {component : Component} {starting result : Starting}
    {record : List Exchange} (unfailed : starting.failure = none)
    (yields : (launch name component starting).Yields record result) :
    ∃ reason : Option String,
      result = { starting with failure := reason.map (.startFailed name) } ∧
      ∀ entered turn turns strays, turn.component = component →
        ({ entered, turns := turn :: turns, strays } : Docket).readAll record =
          ⟨entered, { turn with calls := turn.calls ++ [.start component reason] } :: turns,
            strays⟩ := by
  obtain ⟨left, failure⟩ := starting
  obtain rfl : failure = none := unfailed
  obtain ⟨_, _, _, rfl, launched⟩ := yields_note_bind.mp yields
  obtain ⟨reason, _, _, rest, rfl, ended⟩ := yields_ask_bind.mp launched
  cases reason with
  | some reason =>
    obtain ⟨rfl, rfl⟩ := ended
    exact ⟨some reason, rfl, fun entered turn turns strays own =>
      Docket.noteCall_own entered turn turns strays (.start component (some reason)) own⟩
  | none =>
    obtain ⟨_, _, _, rfl, rfl, rfl⟩ := yields_note_bind.mp ended
    exact ⟨none, rfl, fun entered turn turns strays own =>
      Docket.noteCall_own entered turn turns strays (.start component none) own⟩

/-- A turn takes the innermost name off those gone down from, leaves the working set as it is, and
ends in one of four ways. -/
theorem Starting.yields_turn {autoOnly : Bool} {name : String} {component : Component}
    {starting result : Starting} {record : List Exchange} (unfailed : starting.failure = none)
    (yields : (turn autoOnly name component starting).Yields record result) :
    ∃ (turn : Turn) (failure : Option LifecycleError), turn.name = name ∧
      turn.component = component ∧ StartTurn autoOnly turn failure ∧
      result = { starting with failure } ∧
      ∀ entered turns strays,
        ({ entered := name :: entered, turns, strays } : Docket).readAll record =
          { entered, turns := turn :: turns, strays } := by
  obtain ⟨ran, resolved, instant, rest, rfl, answered⟩ := yields_ask_bind.mp yields
  cases ran with
  | true =>
    obtain ⟨rfl, rfl⟩ := answered
    exact ⟨_, none, rfl, rfl, .running name component, by rw [← unfailed], fun _ _ _ => rfl⟩
  | false =>
    obtain ⟨asked, wanted, last, asks, goesOn, rfl⟩ := yields_bind.mp answered
    obtain ⟨auto, declined, reads⟩ := component.yields_isWanted asks
    have readAsked : ∀ entered turns strays more,
        ({ entered := name :: entered, turns, strays } : Docket).readAll
          (⟨.isRunning component, false, resolved, instant⟩ :: (asked ++ more)) =
          (Docket.mk entered (⟨name, component, false, auto, []⟩ :: turns) strays).readAll more := by
      intro entered turns strays more
      rw [Docket.readAll_cons, Docket.readAll_append]
      exact congrArg (Docket.readAll · more) (reads entered ⟨name, component, false, none, []⟩ turns
        strays rfl)
    cases wanted with
    | false =>
      obtain ⟨rfl, rfl⟩ := goesOn
      obtain ⟨automatic, rfl⟩ := declined rfl
      exact ⟨_, none, rfl, rfl, .declining name component automatic, by rw [← unfailed],
        fun entered turns strays => readAsked entered turns strays []⟩
    | true =>
      obtain ⟨reason, rfl, called⟩ := Starting.yields_launch unfailed goesOn
      refine ⟨⟨name, component, false, auto, [.start component reason]⟩, _, rfl, rfl, ?_, rfl,
        fun entered turns strays => ?_⟩
      · cases reason with
        | none => exact .starting name component auto
        | some reason => exact .failing name component auto reason
      · rw [readAsked, called _ _ _ _ rfl]
        rfl

/-- Once a component failed to start, nothing more is asked. -/
theorem Starting.yields_visit_of_failed {autoOnly : Bool} {depth : Nat} {name : String}
    {starting result : Starting} {record : List Exchange} (failed : starting.failure ≠ none)
    (yields : (visit autoOnly depth starting name).Yields record result) :
    record = [] ∧ result = starting := by
  obtain ⟨error, failure⟩ := Option.ne_none_iff_exists'.mp failed
  cases depth with
  | zero => exact yields
  | succ depth =>
    rw [visit, failure] at yields
    exact yields

/-! ### A start pass and the search -/

/-- A start under way has the same names left and the same turns behind it as a search over the
same edges. -/
structure Along (autoOnly : Bool) (set : WorkingSet) (stack : List String) (docket : Docket)
    (descent : Descent) (starting : Starting) : Prop where
  left : starting.left = descent.left
  within : ∀ name component, starting.left.get? name = some component →
    set.get? name = some component
  entered : docket.entered = stack
  names : docket.names = descent.order
  clean : ∀ turn ∈ docket.turns, StartTurn autoOnly turn none

/-- How a start under way stands to a search over the same edges. Until a component fails to start
they go along with each other; its turn is the latest from then on, and the search runs ahead. -/
structure Accord (autoOnly : Bool) (set : WorkingSet) (stack : List String) (docket : Docket)
    (descent : Descent) (starting : Starting) : Prop where
  names : docket.names <+: descent.order
  clean : ∀ turn ∈ docket.turns.tail, StartTurn autoOnly turn none
  failed : ∀ error, starting.failure = some error →
    ∃ turn turns, docket.turns = turn :: turns ∧ StartTurn autoOnly turn (some error)
  listed : ∀ turn ∈ docket.turns, set.get? turn.name = some turn.component
  strays : docket.strays = []
  along : starting.failure = none → Along autoOnly set stack docket descent starting

namespace Accord

variable {autoOnly : Bool} {set : WorkingSet} {stack : List String} {docket : Docket}
  {descent : Descent} {starting result : Starting} {edges : String → List String}
  {record : List Exchange}

/-- Before any turn, a start is in accord with a search over the same set. -/
theorem initial (autoOnly : Bool) (set : WorkingSet) :
    Accord autoOnly set [] {} { left := set } { left := set } where
  names := List.prefix_refl _
  clean := fun _ there => absurd there List.not_mem_nil
  failed := fun _ => nofun
  listed := fun _ there => absurd there List.not_mem_nil
  strays := rfl
  along := fun _ =>
    ⟨rfl, fun _ _ found => found, rfl, rfl, fun _ there => absurd there List.not_mem_nil⟩

/-- Once a component failed to start, nothing that the search goes on to do matters. -/
theorem of_failed (accord : Accord autoOnly set stack docket descent starting)
    (failed : starting.failure ≠ none) {ahead : Descent} (further : descent.order <+: ahead.order)
    (other : List String) : Accord autoOnly set other docket ahead starting where
  names := accord.names.trans further
  clean := accord.clean
  failed := accord.failed
  listed := accord.listed
  strays := accord.strays
  along := fun unfailed => absurd unfailed failed

/-- A loop keeps to the search if each of its rounds does. -/
theorem foldlM {step : Starting → String → Pass Starting} {search : Descent → String → Descent}
    (each : ∀ {docket descent starting result record} (name : String),
      (∀ exchange ∈ record, exchange.KeepsDependencies edges) →
      (step starting name).Yields record result →
      Accord autoOnly set stack docket descent starting →
      Accord autoOnly set stack (docket.readAll record) (search descent name) result)
    {roots : List String} (fixed : ∀ exchange ∈ record, exchange.KeepsDependencies edges)
    (yields : (roots.foldlM step starting).Yields record result)
    (accord : Accord autoOnly set stack docket descent starting) :
    Accord autoOnly set stack (docket.readAll record) (roots.foldl search descent) result := by
  induction roots generalizing docket descent starting record with
  | nil =>
    obtain ⟨rfl, rfl⟩ := yields
    exact accord
  | cons root roots inductionHypothesis =>
    obtain ⟨first, middle, last, round, rounds, rfl⟩ := yields_foldlM_cons.mp yields
    rw [Docket.readAll_append]
    exact inductionHypothesis (fun exchange there => fixed exchange (List.mem_append_right _ there))
      rounds (each root (fun exchange there => fixed exchange (List.mem_append_left _ there)) round
        accord)

/-- Taking a name out of the working set, both go down from it. -/
theorem goDown {name : String} (accord : Accord autoOnly set stack docket descent starting)
    (unfailed : starting.failure = none) :
    Accord autoOnly set (name :: stack) (docket.goDown name)
      { descent with left := descent.left.erase name } { left := starting.left.erase name } where
  names := accord.names
  clean := accord.clean
  failed := fun _ => nofun
  listed := accord.listed
  strays := accord.strays
  along := fun _ => by
    obtain ⟨left, within, entered, names, clean⟩ := accord.along unfailed
    refine ⟨by rw [left], fun other component found => within other component ?_,
      by rw [← entered]; rfl, names, clean⟩
    by_cases same : other = name
    · rw [same, WorkingSet.get?_erase_self] at found
      cases found
    · rwa [WorkingSet.get?_erase_of_ne _ same] at found

/-- Back from everything below a name, its turn takes the name off the stack. -/
theorem turn {name : String} {component : Component} (listed : set.get? name = some component)
    (accord : Accord autoOnly set (name :: stack) docket descent starting)
    (yields : (if starting.failure.isSome then return starting
      else Starting.turn autoOnly name component starting : Pass Starting).Yields record result) :
    Accord autoOnly set stack (docket.readAll record)
      { descent with order := descent.order ++ [name] } result := by
  by_cases unfailed : starting.failure = none
  · rw [unfailed] at yields
    obtain ⟨left, within, entered, names, clean⟩ := accord.along unfailed
    obtain ⟨turn, failure, rfl, rfl, kind, rfl, reads⟩ := Starting.yields_turn unfailed yields
    obtain ⟨_, turns, strays⟩ := docket
    obtain rfl := entered
    rw [reads]
    have ordered : ({ entered := stack, turns := turn :: turns, strays } : Docket).names =
        descent.order ++ [turn.name] :=
      (Docket.names_cons _ _ _ _).trans (congrArg (· ++ [turn.name]) names)
    refine ⟨ordered ▸ List.prefix_refl _, clean, ?_, ?_, accord.strays, ?_⟩
    · rintro error rfl
      exact ⟨turn, turns, rfl, kind⟩
    · intro other there
      rcases List.mem_cons.mp there with rfl | there
      · exact listed
      · exact accord.listed other there
    · rintro rfl
      refine ⟨left, within, rfl, ordered, fun other there => ?_⟩
      rcases List.mem_cons.mp there with rfl | there
      · exact kind
      · exact clean other there
  · rw [if_pos (Option.isSome_iff_ne_none.mpr unfailed)] at yields
    obtain ⟨rfl, rfl⟩ := yields
    exact accord.of_failed unfailed (List.prefix_append _ _) stack

/-- Going down from a name, a start pass keeps to the search. -/
theorem visit (depth : Nat) (name : String)
    (fixed : ∀ exchange ∈ record, exchange.KeepsDependencies edges)
    (yields : (Starting.visit autoOnly depth starting name).Yields record result)
    (accord : Accord autoOnly set stack docket descent starting) :
    Accord autoOnly set stack (docket.readAll record) (descent.visit edges depth name) result := by
  induction depth generalizing docket descent starting result record name stack with
  | zero =>
    obtain ⟨rfl, rfl⟩ := yields
    exact accord
  | succ depth inductionHypothesis =>
    by_cases unfailed : starting.failure = none
    · have along := accord.along unfailed
      cases found : starting.left.get? name with
      | none =>
        have absent : name ∉ descent.left.names := by
          rw [← along.left]
          exact (WorkingSet.get?_eq_none_iff _ _).mp found
        rw [Starting.visit, unfailed, found] at yields
        obtain ⟨rfl, rfl⟩ := yields
        rw [Descent.visit_of_notMem _ absent]
        exact accord
      | some component =>
        have present : name ∈ descent.left.names := by
          rw [← along.left]
          exact WorkingSet.mem_names_of_get? found
        rw [Starting.visit, unfailed, found] at yields
        obtain ⟨dependencies, _, _, rest, rfl, answered⟩ := yields_ask_bind.mp yields
        obtain ⟨below, middle, last, descended, turned, rfl⟩ := yields_bind.mp answered
        obtain rfl : dependencies = edges name := fixed _ List.mem_cons_self
        have fixedBelow : ∀ exchange ∈ below, exchange.KeepsDependencies edges :=
          fun exchange there =>
            fixed exchange (List.mem_cons_of_mem _ (List.mem_append_left _ there))
        have cameBack := foldlM (fun next => inductionHypothesis next) fixedBelow descended
          (accord.goDown unfailed)
        rw [Descent.visit_of_mem _ present, Docket.readAll_cons, Docket.readAll_append]
        exact cameBack.turn (along.within name component found) turned
    · obtain ⟨rfl, rfl⟩ := Starting.yields_visit_of_failed unfailed yields
      exact accord.of_failed unfailed (Descent.order_prefix_visit _ _ _) stack

/-- Going down from a name as deep as the working set allows, a start pass keeps to the search. -/
theorem start (name : String) (fixed : ∀ exchange ∈ record, exchange.KeepsDependencies edges)
    (yields : (starting.start autoOnly name).Yields record result)
    (accord : Accord autoOnly set stack docket descent starting) :
    Accord autoOnly set stack (docket.readAll record) (descent.enter edges name) result := by
  by_cases unfailed : starting.failure = none
  · have same : descent.enter edges name = descent.visit edges starting.left.size name := by
      rw [Descent.enter, (accord.along unfailed).left]
    rw [same]
    exact accord.visit _ name fixed yields
  · obtain ⟨rfl, rfl⟩ := Starting.yields_visit_of_failed unfailed yields
    exact accord.of_failed unfailed (Descent.order_prefix_visit _ _ _) stack

end Accord

/-! ### A whole start pass -/

section

variable {autoOnly : Bool} {set : WorkingSet} {docket : Docket} {descent : Descent} {edges : String → List String}
  {record : List Exchange}

/-- The start of a group asks about the order of its members, and then starts them in that order. -/
theorem Group.yields_start {group sorted : Group} {left : WorkingSet} {result : Starting}
    (yields : (group.start left).Yields record (sorted, result)) :
    ∃ opening visits, record = opening ++ visits ∧ (∀ exchange ∈ opening, exchange.request.isAside) ∧
      group.SortedIn opening sorted ∧
      ((sorted.members.map (·.name)).foldlM (Starting.start group.autoOnly) { left }).Yields visits
        result := by
  unfold Group.start at yields
  cases empty : group.members.isEmpty with
  | true =>
    rw [if_pos empty] at yields
    obtain ⟨rfl, same⟩ := yields
    obtain ⟨rfl, rfl⟩ := Prod.mk.inj same
    refine ⟨[], [], rfl, fun _ there => absurd there List.not_mem_nil, .untouched, ?_⟩
    rw [List.isEmpty_iff.mp empty]
    exact ⟨rfl, rfl⟩
  | false =>
    rw [empty] at yields
    obtain ⟨_, _, rest, rfl, sorts⟩ := yields_note_bind.mp yields
    obtain ⟨first, arranged, last, sorting, starts, rfl⟩ := yields_bind.mp sorts
    obtain ⟨started, ended, _, visits, ⟨rfl, same⟩, rfl⟩ := yields_bind.mp starts
    obtain ⟨rfl, rfl⟩ := Prod.mk.inj same
    have aside : ∀ exchange ∈ first, exchange.request.isAside :=
      sorting.request_of_asks (group.asks_ascending fun _ => trivial)
    rw [← List.foldlM_map, (Group.yields_ascending sorting).autoOnly] at visits
    rw [List.append_nil, ← List.cons_append]
    refine ⟨_, started, rfl, fun exchange there => ?_, .ascending (List.subset_cons_self _ _) sorting,
      visits⟩
    rcases List.mem_cons.mp there with rfl | there
    · exact trivial
    · exact aside exchange there

/-- The start of a group keeps to a search from its members, in the order in which they are sorted
at that moment. -/
theorem Group.accord_start {group sorted : Group} {left : WorkingSet} {result : Starting}
    (fixed : ∀ exchange ∈ record, exchange.KeepsDependencies edges)
    (yields : (group.start left).Yields record (sorted, result))
    (accord : Accord group.autoOnly set [] docket descent { left }) :
    group.SortedIn record sorted ∧
      Accord group.autoOnly set [] (docket.readAll record)
        ((sorted.members.map (·.name)).foldl (Descent.enter edges) descent) result := by
  obtain ⟨opening, visits, rfl, aside, sortedIn, starts⟩ := Group.yields_start yields
  rw [Docket.readAll_append, Docket.readAll_of_isAside aside]
  exact ⟨sortedIn.mono (List.subset_append_left _ _), Accord.foldlM (fun name => Accord.start name)
    (fun exchange there => fixed exchange (List.mem_append_right _ there)) starts accord⟩

/-- One group after the other, a start pass keeps to one search. -/
theorem accord_startGroups {groups : List Group} {starting result : Starting}
    (mode : ∀ group ∈ groups, group.autoOnly = autoOnly)
    (fixed : ∀ exchange ∈ record, exchange.KeepsDependencies edges)
    (yields : (startGroups groups starting).Yields record result)
    (accord : Accord autoOnly set [] docket descent starting) :
    ∃ roots : List String, Group.Arranged record groups roots ∧
      Accord autoOnly set [] (docket.readAll record) (roots.foldl (Descent.enter edges) descent)
        result := by
  unfold startGroups at yields
  induction groups generalizing docket descent starting record with
  | nil =>
    obtain ⟨rfl, rfl⟩ := yields
    exact ⟨[], .nil, accord⟩
  | cons group groups inductionHypothesis =>
    obtain ⟨first, middle, last, round, rounds, rfl⟩ := yields_foldlM_cons.mp yields
    have once : ∃ sorted, group.SortedIn first sorted ∧
        Accord autoOnly set [] (docket.readAll first)
          ((sorted.members.map (·.name)).foldl (Descent.enter edges) descent) middle := by
      by_cases unfailed : starting.failure = none
      · obtain ⟨left, failure⟩ := starting
        obtain rfl : failure = none := unfailed
        obtain ⟨_, _, _, rfl, opened⟩ := yields_note_bind.mp round
        obtain ⟨started, ⟨sorted, ended⟩, _, starts, ⟨rfl, rfl⟩, rfl⟩ := yields_bind.mp opened
        obtain rfl := mode group List.mem_cons_self
        rw [List.append_nil] at fixed ⊢
        rw [Docket.readAll_cons]
        obtain ⟨sortedIn, together⟩ := Group.accord_start
          (fun exchange there =>
            fixed exchange (List.mem_append_left _ (List.mem_cons_of_mem _ there)))
          starts accord
        exact ⟨sorted, sortedIn.mono (List.subset_cons_self _ _), together⟩
      · rw [if_pos (Option.isSome_iff_ne_none.mpr unfailed)] at round
        obtain ⟨rfl, rfl⟩ := round
        exact ⟨group, .untouched,
          accord.of_failed unfailed (Descent.order_prefix_foldl_enter _ _) []⟩
    obtain ⟨sorted, sortedIn, together⟩ := once
    obtain ⟨others, arranged, accord⟩ := inductionHypothesis
      (fun group there => mode group (List.mem_cons_of_mem _ there))
      (fun exchange there => fixed exchange (List.mem_append_right _ there)) rounds together
    refine ⟨sorted.members.map (·.name) ++ others,
      .cons (sortedIn.mono (List.subset_append_left _ _))
        (arranged.mono (List.subset_append_right _ _)), ?_⟩
    rw [Docket.readAll_append, List.foldl_append]
    exact accord

/-- A start pass gathers groups, starts them, and ends with the failure of the start. -/
theorem yields_startPass {snapshot : List Member} {timeout : Nat}
    {outcome : Except LifecycleError Unit}
    (yields : (startPass snapshot timeout autoOnly).Yields record outcome) :
    ∃ gathering groups started starting, record = gathering ++ started ∧
      (groupSnapshot snapshot timeout autoOnly).Yields gathering groups ∧
      (startGroups groups { left := WorkingSet.ofList snapshot }).Yields started starting ∧
      outcome = (match starting.failure with | some error => .error error | none => .ok ()) := by
  obtain ⟨gathering, groups, rest, gathers, goesOn, rfl⟩ := yields_bind.mp yields
  obtain ⟨started, starting, last, starts, ends, rfl⟩ := yields_bind.mp goesOn
  have finished : last = [] ∧
      outcome = (match starting.failure with | some error => .error error | none => .ok ()) := by
    cases failure : starting.failure with
    | none =>
      rw [failure] at ends
      exact ends
    | some error =>
      rw [failure] at ends
      exact ends
  obtain ⟨rfl, ended⟩ := finished
  exact ⟨gathering, groups, started, starting, by rw [List.append_nil], gathers, starts, ended⟩

/-- A start pass keeps to a search from the names that its groups hold. -/
theorem accord_startPass {snapshot : List Member} {timeout : Nat}
    {outcome : Except LifecycleError Unit}
    (fixed : ∀ exchange ∈ record, exchange.KeepsDependencies edges)
    (yields : (startPass snapshot timeout autoOnly).Yields record outcome) :
    ∃ gathering groups started starting, ∃ roots : List String,
      record = gathering ++ started ∧
      (groupSnapshot snapshot timeout autoOnly).Yields gathering groups ∧
      Group.Arranged record groups roots ∧
      outcome = (match starting.failure with | some error => .error error | none => .ok ()) ∧
      Accord autoOnly (WorkingSet.ofList snapshot) [] (({} : Docket).readAll record)
        (roots.foldl (Descent.enter edges) { left := WorkingSet.ofList snapshot }) starting := by
  obtain ⟨gathering, groups, started, starting, rfl, gathers, starts, ended⟩ := yields_startPass yields
  have outset := gathers.request_of_asks (asks_groupSnapshot snapshot timeout autoOnly)
  have begun : Accord autoOnly (WorkingSet.ofList snapshot) [] (({} : Docket).readAll gathering)
      { left := WorkingSet.ofList snapshot } { left := WorkingSet.ofList snapshot } := by
    rw [Docket.readAll_of_isOutset outset]
    exact .initial autoOnly _
  obtain ⟨roots, arranged, accord⟩ := accord_startGroups
    (fun group there => (settings_of_groupSnapshot gathers group there).2)
    (fun exchange there => fixed exchange (List.mem_append_right _ there)) starts begun
  rw [← Docket.readAll_append] at accord
  exact ⟨gathering, groups, started, starting, roots, rfl, gathers,
    arranged.mono (List.subset_append_right _ _), ended, accord⟩

/-- A start pass that fails made a call that failed. -/
theorem failing_call_of_startPass {snapshot : List Member} {timeout : Nat} {error : LifecycleError}
    (yields : (startPass snapshot timeout autoOnly).Yields record (.error error))
    (fixed : ∀ exchange ∈ record, exchange.KeepsDependencies edges) :
    ∃ component reason, Call.start component (some reason) ∈ callsIn record := by
  obtain ⟨_, _, _, starting, _, -, -, -, ended, accord⟩ := accord_startPass fixed yields
  cases failure : starting.failure with
  | none =>
    rw [failure] at ended
    cases ended
  | some reason =>
    obtain ⟨turn, turns, latest, kind⟩ := accord.failed reason failure
    have there : turn ∈ turnsIn record := by
      rw [turnsIn, latest]
      exact List.mem_reverse.mpr List.mem_cons_self
    cases kind with
    | failing name component auto reason =>
      refine ⟨component, reason, ?_⟩
      rw [← flatMap_calls_turnsIn accord.strays]
      exact List.mem_flatMap.mpr ⟨_, there, List.mem_cons_self⟩

/-- In a start pass over all components that fails nowhere, the turns are one for each component, and
they come in an order of the search. -/
theorem turns_of_startPass {snapshot : List Member} {timeout : Nat}
    (once : (snapshot.map (·.name)).Nodup)
    (yields : (startPass snapshot timeout false).Yields record (.ok ()))
    (fixed : ∀ exchange ∈ record, exchange.KeepsDependencies edges) :
    (({} : Docket).readAll record).strays = [] ∧
      ((turnsIn record).map Turn.member).Perm snapshot ∧
      (∀ turn ∈ turnsIn record, StartTurn false turn none) ∧
      Descent.Ordered edges (snapshot.map (·.name)) ((turnsIn record).map (·.name)) := by
  obtain ⟨_, groups, _, starting, roots, -, gathers, arranged, ended, accord⟩ :=
    accord_startPass fixed yields
  have unfailed : starting.failure = none := by
    cases failure : starting.failure with
    | none => rfl
    | some error =>
      rw [failure] at ended
      cases ended
  obtain ⟨-, -, -, names, clean⟩ := accord.along unfailed
  have names : (turnsIn record).map (·.name) =
      (roots.foldl (Descent.enter edges) { left := WorkingSet.ofList snapshot }).order := names
  have distinct := WorkingSet.distinct_ofList snapshot
  refine ⟨accord.strays, ?_, fun turn there => clean turn (List.mem_reverse.mp there), ?_⟩
  · have onceTurn : ((turnsIn record).map Turn.member).Nodup := by
      refine List.Nodup.of_map Member.name ?_
      rw [List.map_map]
      exact names ▸ ((@Descent.sound_initial edges _ distinct).enterAll roots).1.once
    refine (List.perm_ext_iff_of_nodup onceTurn (List.Nodup.of_map _ once)).mpr fun member => ?_
    constructor
    · intro there
      obtain ⟨turn, inside, rfl⟩ := List.mem_map.mp there
      exact WorkingSet.mem_of_get?_ofList (accord.listed turn (List.mem_reverse.mp inside))
    · intro listed
      have root : member.name ∈ roots := by
        rw [arranged.perm.mem_iff, ((flatMap_members_groupSnapshot gathers).map Member.name).mem_iff,
          List.map_map]
        exact List.mem_map_of_mem listed
      have hasTurn : member.name ∈ (turnsIn record).map (·.name) := by
        rw [names]
        exact Descent.mem_order_search distinct root
          ((WorkingSet.mem_names_ofList _ _).mpr (List.mem_map_of_mem listed))
      obtain ⟨turn, inside, same⟩ := List.mem_map.mp hasTurn
      have found := accord.listed turn (List.mem_reverse.mp inside)
      rw [same, WorkingSet.get?_ofList_of_mem once listed] at found
      refine List.mem_map.mpr ⟨turn, inside, ?_⟩
      rw [Turn.member, same, ← Option.some.inj found]
  · rw [names]
    have ordered := @Descent.ordered_search edges _ distinct roots
    unfold Descent.Ordered at ordered ⊢
    rw [leads_congr (WorkingSet.mem_names_ofList snapshot)] at ordered
    exact ordered

end

/-! ### The order of starts -/

theorem getLast?_turnsIn {record : List Exchange} {turn : Turn} {turns : List Turn}
    (latest : (({} : Docket).readAll record).turns = turn :: turns) :
    (turnsIn record).getLast? = some turn := by
  rw [turnsIn, latest, List.reverse_cons, List.getLast?_concat]

/-- Every call of a start pass to start a component belongs to the turn of a name that stands for
it. If that name lies on no circle of dependencies among the names of the snapshot, then whatever it
depends on, directly or through others, was handled in an earlier turn. The registry answers each
question in one way throughout the pass; phases, running components and components that decline to
start are as they may be. -/
theorem startPass_handles_dependencies_first {snapshot : List Member} {timeout : Nat}
    {autoOnly : Bool} {record : List Exchange} {outcome : Except LifecycleError Unit}
    (yields : (startPass snapshot timeout autoOnly).Yields record outcome)
    {edges : String → List String} (fixed : ∀ exchange ∈ record, exchange.KeepsDependencies edges)
    {before after : List Exchange} {component : Component} {reason : Option String}
    {resolved : List Resolution} {instant : Nat}
    (starts : record = before ++ ⟨.start component, reason, resolved, instant⟩ :: after) :
    ∃ turn, (turnsIn before).getLast? = some turn ∧ turn.component = component ∧
      (WorkingSet.ofList snapshot).get? turn.name = some component ∧
      (¬ OnCircle edges (snapshot.map (·.name)) turn.name →
        ∀ other, other ≠ turn.name →
          ReflTransGen (Leads edges (snapshot.map (·.name))) turn.name other →
          ∃ earlier ∈ turnsIn before, earlier.name = other ∧ earlier.IsHandled autoOnly ∧
            (WorkingSet.ofList snapshot).get? other = some earlier.component) := by
  obtain ⟨_, _, _, starting, roots, -, -, -, -, accord⟩ := accord_startPass fixed yields
  have ordered : Descent.Ordered edges (WorkingSet.ofList snapshot).names
      (roots.foldl (Descent.enter edges) { left := WorkingSet.ofList snapshot }).order :=
    Descent.ordered_search (WorkingSet.distinct_ofList snapshot) roots
  have readBefore := Docket.precedes_readAll (({} : Docket).readAll before)
    (⟨.start component, reason, resolved, instant⟩ :: after)
  have readCall := Docket.precedes_readAll ((({} : Docket).readAll before).noteCall
    (.start component reason)) after
  have whole : ({} : Docket).readAll record = ((({} : Docket).readAll before).noteCall
      (.start component reason)).readAll after := by
    rw [starts, Docket.readAll_append]
    rfl
  rw [← Docket.readAll_append, ← starts] at readBefore
  rw [← whole] at readCall
  obtain ⟨turn, turns, latest, rfl⟩ := Docket.own_of_strays_noteCall
    (List.prefix_nil.mp (accord.strays ▸ readCall.strays))
  have listed : ∀ other ∈ turn :: turns,
      (WorkingSet.ofList snapshot).get? other.name = some other.component := by
    intro other there
    rw [← latest] at there
    obtain ⟨later, there, same⟩ :=
      List.mem_map.mp (readBefore.members.subset (List.mem_map_of_mem there))
    obtain ⟨name, component⟩ := Member.mk.inj same
    rw [← name, ← component]
    exact accord.listed later there
  refine ⟨turn, getLast?_turnsIn latest, rfl, listed turn List.mem_cons_self, ?_⟩
  intro straight other different reaches
  obtain ⟨rest, place⟩ := readBefore.names.trans accord.names
  have earlierNames : (({} : Docket).readAll before).names =
      turns.reverse.map (·.name) ++ [turn.name] := by
    rw [Docket.names, latest, List.reverse_cons, List.map_append]
    rfl
  rw [earlierNames, List.append_assoc] at place
  have sameNames : Leads edges (WorkingSet.ofList snapshot).names =
      Leads edges (snapshot.map (·.name)) := leads_congr (WorkingSet.mem_names_ofList snapshot)
  rw [OnCircle, ← sameNames] at straight
  rw [← sameNames] at reaches
  obtain ⟨earlier, there, rfl⟩ := List.mem_map.mp
    (ordered.precedes place.symm straight reaches different)
  have inTail : earlier ∈ turns := List.mem_reverse.mp there
  refine ⟨earlier, ?_, rfl, (accord.clean earlier (readBefore.tail.subset ?_)).isHandled,
    listed earlier (List.mem_cons_of_mem _ inTail)⟩
  · rw [turnsIn, latest]
    exact List.mem_reverse.mpr (List.mem_cons_of_mem _ inTail)
  · rw [latest]
    exact inTail

/-- A site of an earlier phase than the database it depends on. -/
def siteAndDatabase : List Member :=
  [⟨"site", ⟨"site", .phased⟩⟩, ⟨"database", ⟨"database", .phased⟩⟩]

def siteDependencies (name : String) : List String :=
  if name = "site" then ["database"] else []

def sitePhases (component : Component) : Int :=
  if component.key = "site" then 0 else 1

def siteAndDatabaseHabits : Habits where
  dependencies := siteDependencies
  phase := sitePhases

def siteRecord : List Exchange :=
  siteAndDatabaseHabits.record [] (startPass siteAndDatabase 30000 false)

theorem site_starts_after_database :
    ∃ earlier ∈ turnsIn (siteRecord.take 13), earlier.name = "database" ∧
      earlier.IsHandled false := by
  have starts : siteRecord = siteRecord.take 13 ++
      ⟨.start ⟨"site", .phased⟩, none, [], 0⟩ :: siteRecord.drop 14 := by cbv
  have latest : (turnsIn (siteRecord.take 13)).getLast? =
      some ⟨"site", ⟨"site", .phased⟩, false, none, []⟩ := by cbv
  obtain ⟨turn, itsTurn, -, -, handles⟩ := startPass_handles_dependencies_first
    (siteAndDatabaseHabits.yields_record _ _) (siteAndDatabaseHabits.keepsDependencies_record _ _) starts
  obtain rfl := Option.some.inj (itsTurn.symm.trans latest)
  have straight : ¬ OnCircle siteDependencies (siteAndDatabase.map (·.name)) "site" := by
    intro circle
    obtain ⟨next, edge, back⟩ := TransGen.head'_iff.mp circle
    obtain rfl : next = "database" := by simpa [Leads, siteDependencies] using edge.2.2
    rcases ReflTransGen.cases_head back with same | ⟨_, edge, -⟩
    · exact absurd same (by decide)
    · exact absurd edge.2.2 List.not_mem_nil
  obtain ⟨earlier, there, same, handled, -⟩ := handles straight "database" (by decide)
    (ReflTransGen.single ⟨by decide, by decide, by decide⟩)
  exact ⟨earlier, there, same, handled⟩

end PhasedLifecycle
