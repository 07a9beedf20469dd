/-
This file reads the turns of components off the record of a pass. A pass takes a name out of the
working set and asks for its edges, goes down from what they name, and then the turn of the name
comes: the pass asks whether the component runs and, as the answer may be, calls it. So the names
gone down from nest like brackets in a record: a question about edges opens one, and a question
whether a component runs closes the innermost and begins its turn. This tells the turns apart even
where several names stand for one component.
-/

import PhasedLifecycle.Proofs.Record

namespace PhasedLifecycle

/-! ### Turns -/

/-- A call of a pass to a component. The reason tells why it failed, if it did. -/
inductive Call where
  | start (component : Component) (reason : Option String)
  | stop (component : Component) (reason : Option String)
  | stopAsync (component : Component) (signal : Signal) (reason : Option String)
  deriving DecidableEq

/-- The component that is called. -/
def Call.component : Call → Component
  | .start component _ => component
  | .stop component _ => component
  | .stopAsync component _ _ => component

/-- What became of a name when its turn came. -/
structure Turn where
  name : String
  component : Component
  /-- Whether the component ran when its turn came. -/
  ran : Bool
  /-- Whether the component starts by itself, if it was asked. -/
  auto : Option Bool := none
  calls : List Call := []
  deriving DecidableEq

/-- The name of the turn with the component it stands for. -/
def Turn.member (turn : Turn) : Member :=
  { name := turn.name, component := turn.component }

/-- Where the turns are one for each member, so are their components. -/
theorem perm_components {turns : List Turn} {members : List Member}
    (all : (turns.map Turn.member).Perm members) :
    (turns.map (·.component)).Perm (members.map (·.component)) := by
  have components := all.map Member.component
  rw [List.map_map] at components
  exact components

/-- The names a pass has gone down from so far: those whose turn has not come, the innermost first,
and the turns of the others, the latest first. A call to any component but the one whose turn it is
goes astray. -/
structure Docket where
  entered : List String := []
  turns : List Turn := []
  strays : List Call := []
  deriving DecidableEq

namespace Docket

/-- The names whose turn has come, in the order of their turns. -/
def names (docket : Docket) : List String :=
  docket.turns.reverse.map (·.name)

/-- Goes down from a name. -/
def goDown (docket : Docket) (name : String) : Docket :=
  { docket with entered := name :: docket.entered }

/-- Begins the turn of the innermost name. -/
def beginTurn (docket : Docket) (component : Component) (ran : Bool) : Docket :=
  match docket.entered with
  | [] => docket
  | name :: entered => { docket with entered, turns := { name, component, ran } :: docket.turns }

/-- Notes in the latest turn what the component answered. -/
def noteAuto (docket : Docket) (auto : Bool) : Docket :=
  { docket with turns := docket.turns.modifyHead fun turn => { turn with auto := some auto } }

/-- Notes a call in the latest turn. -/
def noteCall (docket : Docket) (call : Call) : Docket :=
  match docket.turns with
  | [] => { docket with strays := docket.strays ++ [call] }
  | turn :: turns =>
    if turn.component = call.component then
      { docket with turns := { turn with calls := turn.calls ++ [call] } :: turns }
    else { docket with strays := docket.strays ++ [call] }

/-- Reads one exchange of a record. -/
def read (docket : Docket) : Exchange → Docket
  | ⟨.dependencies name, _, _, _⟩ => docket.goDown name
  | ⟨.dependents name, _, _, _⟩ => docket.goDown name
  | ⟨.isRunning component, ran, _, _⟩ => docket.beginTurn component ran
  | ⟨.isAutoStartup _, auto, _, _⟩ => docket.noteAuto auto
  | ⟨.start component, reason, _, _⟩ => docket.noteCall (.start component reason)
  | ⟨.stop component, reason, _, _⟩ => docket.noteCall (.stop component reason)
  | ⟨.stopAsync component signal, reason, _, _⟩ =>
    docket.noteCall (.stopAsync component signal reason)
  | ⟨.phase _, _, _, _⟩ => docket
  | ⟨.barrierMark, _, _, _⟩ => docket
  | ⟨.arrivals _, _, _, _⟩ => docket
  | ⟨.now, _, _, _⟩ => docket
  | ⟨.nextArrival _ _, _, _, _⟩ => docket
  | ⟨.note _, _, _, _⟩ => docket

/-- Reads a record from its beginning to its end. -/
def readAll (docket : Docket) (record : List Exchange) : Docket :=
  record.foldl read docket

theorem readAll_append (docket : Docket) (first last : List Exchange) :
    docket.readAll (first ++ last) = (docket.readAll first).readAll last :=
  List.foldl_append

theorem readAll_cons (docket : Docket) (exchange : Exchange) (record : List Exchange) :
    docket.readAll (exchange :: record) = (docket.read exchange).readAll record := rfl

theorem names_cons (entered : List String) (turn : Turn) (turns : List Turn) (strays : List Call) :
    ({ entered, turns := turn :: turns, strays } : Docket).names =
      ({ entered, turns, strays } : Docket).names ++ [turn.name] := by
  simp [names]

theorem noteCall_own (entered : List String) (turn : Turn) (turns : List Turn) (strays : List Call)
    (call : Call) (own : turn.component = call.component) :
    ({ entered, turns := turn :: turns, strays } : Docket).noteCall call =
      { entered, turns := { turn with calls := turn.calls ++ [call] } :: turns, strays } :=
  if_pos own

/-- A call is noted in the latest turn if it is to the component of that turn, or goes astray. -/
theorem noteCall_cases (docket : Docket) (call : Call) :
    (∃ turn turns, docket.turns = turn :: turns ∧ turn.component = call.component ∧
      docket.noteCall call =
        { docket with turns := { turn with calls := turn.calls ++ [call] } :: turns }) ∨
      docket.noteCall call = { docket with strays := docket.strays ++ [call] } := by
  obtain ⟨entered, turns, strays⟩ := docket
  cases turns with
  | nil => exact Or.inr rfl
  | cons turn turns =>
    by_cases own : turn.component = call.component
    · exact Or.inl ⟨turn, turns, rfl, own, noteCall_own _ _ _ _ _ own⟩
    · exact Or.inr (if_neg own)

/-- A call that does not go astray is a call to the component whose turn it is. -/
theorem own_of_strays_noteCall {docket : Docket} {call : Call}
    (none : (docket.noteCall call).strays = []) :
    ∃ turn turns, docket.turns = turn :: turns ∧ turn.component = call.component := by
  rcases docket.noteCall_cases call with ⟨turn, turns, latest, own, -⟩ | stray
  · exact ⟨turn, turns, latest, own⟩
  · rw [stray] at none
    exact absurd none (by simp)

/-! ### Reading on -/

/-- What was read of a record stays when more of it is read: the order of the turns, every turn but
the latest, and the calls that went astray. -/
structure Precedes (docket later : Docket) : Prop where
  members : docket.turns.map Turn.member <:+ later.turns.map Turn.member
  tail : docket.turns.tail <:+ later.turns.tail
  strays : docket.strays <+: later.strays

theorem Precedes.refl (docket : Docket) : docket.Precedes docket :=
  ⟨List.suffix_refl _, List.suffix_refl _, List.prefix_refl _⟩

theorem Precedes.trans {first second third : Docket} (before : first.Precedes second)
    (after : second.Precedes third) : first.Precedes third :=
  ⟨before.members.trans after.members, before.tail.trans after.tail,
    before.strays.trans after.strays⟩

theorem Precedes.names {docket later : Docket} (before : docket.Precedes later) :
    docket.names <+: later.names := by
  have mapped := (List.reverse_prefix.mpr before.members).map Member.name
  rw [← List.map_reverse, ← List.map_reverse, List.map_map, List.map_map] at mapped
  exact mapped

theorem precedes_noteAuto (docket : Docket) (auto : Bool) :
    docket.Precedes (docket.noteAuto auto) := by
  obtain ⟨entered, turns, strays⟩ := docket
  cases turns with
  | nil => exact .refl _
  | cons turn turns => exact ⟨List.suffix_refl _, List.suffix_refl _, List.prefix_refl _⟩

theorem precedes_noteCall (docket : Docket) (call : Call) :
    docket.Precedes (docket.noteCall call) := by
  rcases docket.noteCall_cases call with ⟨turn, turns, latest, -, noted⟩ | stray
  · rw [noted]
    refine ⟨?_, ?_, List.prefix_refl _⟩
    · rw [latest]
      exact List.suffix_refl _
    · rw [latest]
      exact List.suffix_refl _
  · rw [stray]
    exact ⟨List.suffix_refl _, List.suffix_refl _, List.prefix_append _ _⟩

theorem precedes_read (docket : Docket) (exchange : Exchange) :
    docket.Precedes (docket.read exchange) := by
  obtain ⟨request, answer, meanwhile, instant⟩ := exchange
  cases request with
  | isRunning component =>
    obtain ⟨entered, turns, strays⟩ := docket
    cases entered with
    | nil => exact .refl _
    | cons name entered =>
      exact ⟨List.suffix_cons _ _, List.tail_suffix turns, List.prefix_refl _⟩
  | isAutoStartup component => exact docket.precedes_noteAuto answer
  | start component => exact docket.precedes_noteCall (.start component answer)
  | stop component => exact docket.precedes_noteCall (.stop component answer)
  | stopAsync component signal => exact docket.precedes_noteCall (.stopAsync component signal answer)
  | _ => exact ⟨List.suffix_refl _, List.suffix_refl _, List.prefix_refl _⟩

theorem precedes_readAll (docket : Docket) (record : List Exchange) :
    docket.Precedes (docket.readAll record) := by
  induction record generalizing docket with
  | nil => exact .refl _
  | cons exchange record inductionHypothesis =>
    exact (docket.precedes_read exchange).trans (inductionHypothesis _)

end Docket

/-- The turns in a record, in their order. -/
def turnsIn (record : List Exchange) : List Turn :=
  (Docket.readAll {} record).turns.reverse

/-! ### Questions that belong to no turn -/

/-- A question that neither goes down from a name nor belongs to a turn. -/
def Request.isAside : Request → Prop
  | .phase _ | .barrierMark | .arrivals _ | .now | .nextArrival _ _ | .note _ => True
  | _ => False

theorem Docket.read_of_isAside {exchange : Exchange} (aside : exchange.request.isAside)
    (docket : Docket) : docket.read exchange = docket := by
  obtain ⟨request, answer, meanwhile, instant⟩ := exchange
  cases request <;> first | rfl | exact absurd aside not_false

theorem Docket.readAll_of_isAside {record : List Exchange}
    (aside : ∀ exchange ∈ record, exchange.request.isAside) (docket : Docket) :
    docket.readAll record = docket := by
  induction record with
  | nil => rfl
  | cons exchange record inductionHypothesis =>
    rw [readAll_cons, read_of_isAside (aside exchange List.mem_cons_self)]
    exact inductionHypothesis fun other member => aside other (List.mem_cons_of_mem _ member)

/-- A question that comes before any name is gone down from. -/
def Request.isOutset : Request → Prop
  | .isAutoStartup _ => True
  | request => request.isAside

/-- As long as no turn has come, what components answer about starting by themselves is not of any
turn. -/
theorem Docket.readAll_of_isOutset {record : List Exchange}
    (outset : ∀ exchange ∈ record, exchange.request.isOutset) :
    ({} : Docket).readAll record = {} := by
  induction record with
  | nil => rfl
  | cons exchange record inductionHypothesis =>
    have unchanged : ({} : Docket).read exchange = {} := by
      have first := outset exchange List.mem_cons_self
      obtain ⟨request, answer, meanwhile, instant⟩ := exchange
      cases request <;> first | rfl | exact absurd first not_false
    rw [readAll_cons, unchanged]
    exact inductionHypothesis fun other member => outset other (List.mem_cons_of_mem _ member)

/-! ### Registries with one answer to each question -/

/-- An exchange in which the registry, if it is asked what a name depends on, answers as it always
does. -/
def Exchange.KeepsDependencies (edges : String → List String) : Exchange → Prop
  | ⟨.dependencies name, answer, _, _⟩ => answer = edges name
  | _ => True

/-- Whether the registry, if it is asked what a name depends on, answers as it always does. -/
def Exchange.tellsDependencies (edges : String → List String) : Exchange → Bool
  | ⟨.dependencies name, answer, _, _⟩ => decide (answer = edges name)
  | _ => true

theorem Exchange.tellsDependencies_iff {edges : String → List String} {exchange : Exchange} :
    exchange.tellsDependencies edges = true ↔ exchange.KeepsDependencies edges := by
  obtain ⟨request, answer, meanwhile, instant⟩ := exchange
  cases request with
  | dependencies name => exact decide_eq_true_iff
  | _ => exact iff_of_true rfl trivial

/-- An exchange in which the registry, if it is asked what depends on a name, answers as it always
does. -/
def Exchange.KeepsDependents (edges : String → List String) : Exchange → Prop
  | ⟨.dependents name, answer, _, _⟩ => answer = edges name
  | _ => True

/-- An exchange in which a component, if it is asked for its phase, answers as it always does. -/
def Exchange.KeepsPhases (phase : Component → Int) : Exchange → Prop
  | ⟨.phase component, answer, _, _⟩ => answer = phase component
  | _ => True

/-- A question for the phase of a component. -/
def Request.isPhase : Request → Prop
  | .phase _ => True
  | _ => False

/-- A pass that asks for nothing but phases ends with one value, if these are fixed. -/
theorem Pass.Yields.unique_of_phases {Value : Type} {pass : Pass Value} {record other : List Exchange}
    {result value : Value} {phase : Component → Int} (asks : pass.Asks Request.isPhase)
    (yields : pass.Yields record result) (kept : ∀ exchange ∈ record, exchange.KeepsPhases phase)
    (yieldsOther : pass.Yields other value)
    (keptOther : ∀ exchange ∈ other, exchange.KeepsPhases phase) : value = result := by
  refine Yields.unique (fun exchange its keeps answer meanwhile instant keepsOther => ?_) asks
    yields kept yieldsOther keptOther
  obtain ⟨request, first, resolved, moment⟩ := exchange
  cases request with
  | phase component => exact keepsOther.trans keeps.symm
  | _ => exact its.elim

end PhasedLifecycle
