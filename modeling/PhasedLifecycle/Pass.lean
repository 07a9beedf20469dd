/-
This file defines what a pass over components is: a program that asks its surroundings questions,
one at a time, and goes on with the answers. Whatever a pass does to a component, and whatever it
learns from a registry or a clock, is such a question, so a pass is a plain value and every run of
it ends after finitely many questions, whoever answers them.
-/

import PhasedLifecycle.Barrier
import PhasedLifecycle.Component
import PhasedLifecycle.Notice

namespace PhasedLifecycle

/-! ### Questions and answers -/

/-- A question of a pass to its surroundings: what it asks of a `ComponentRegistry`, of components, of the
clock and of its barrier's channel. -/
inductive Request where
  /-- The names that must have started before a name. -/
  | dependencies (name : String)
  /-- The names that must have stopped before a name. -/
  | dependents (name : String)
  | isRunning (component : Component)
  | isAutoStartup (component : Component)
  | phase (component : Component)
  /-- Start the component and wait for the end of the call; a reason tells that it failed. -/
  | start (component : Component)
  /-- Stop the component and wait for the end of the call; a reason tells that it failed. -/
  | stop (component : Component)
  /-- Ask the component to stop in the background and to resolve the signal at the end. -/
  | stopAsync (component : Component) (signal : Signal)
  /-- A number that no earlier barrier is marked with. -/
  | barrierMark
  /-- The resolutions for a barrier that have happened and were not handed out yet. -/
  | arrivals (barrier : Nat)
  | now
  /-- Wait for the next resolution for a barrier, until the deadline. -/
  | nextArrival (barrier deadline : Nat)
  | note (notice : Notice)
  deriving DecidableEq

/-- The kind of answer that a question has. -/
@[reducible] def Request.Answer : Request → Type
  | .dependencies _ => List String
  | .dependents _ => List String
  | .isRunning _ => Bool
  | .isAutoStartup _ => Bool
  | .phase _ => Int
  | .start _ => Option String
  | .stop _ => Option String
  | .stopAsync _ _ => Option String
  | .barrierMark => Nat
  | .arrivals _ => List Arrival
  | .now => Nat
  | .nextArrival _ _ => Option Arrival
  | .note _ => Unit

/-! ### Programs -/

/-- A program that asks questions and ends with a value. -/
inductive Pass (Value : Type) where
  | done (value : Value)
  | asking (request : Request) (next : request.Answer → Pass Value)

namespace Pass

/-- Ask one question. -/
def ask (request : Request) : Pass request.Answer :=
  .asking request .done

/-- Report a fact. -/
def note (notice : Notice) : Pass Unit :=
  ask (.note notice)

/-- One program, then another that depends on its value. -/
protected def bind {First Second : Type} :
    Pass First → (First → Pass Second) → Pass Second
  | .done value, next => next value
  | .asking request rest, next => .asking request fun answer => (rest answer).bind next

instance : Monad Pass where
  pure := .done
  bind := Pass.bind

theorem bind_asking {First Second : Type} (request : Request)
    (rest : request.Answer → Pass First) (next : First → Pass Second) :
    (Pass.asking request rest >>= next) = .asking request fun answer => rest answer >>= next := rfl

private theorem id_map_pass {Value : Type} (pass : Pass Value) : id <$> pass = pass := by
  induction pass with
  | done value => rfl
  | asking request next inductionHypothesis =>
    exact congrArg (Pass.asking request) (funext inductionHypothesis)

private theorem bind_assoc_pass {First Second Third : Type} (pass : Pass First)
    (next : First → Pass Second) (last : Second → Pass Third) :
    pass >>= next >>= last = pass >>= fun value => next value >>= last := by
  induction pass with
  | done value => rfl
  | asking request rest inductionHypothesis =>
    exact congrArg (Pass.asking request) (funext inductionHypothesis)

instance : LawfulMonad Pass :=
  LawfulMonad.mk' Pass id_map_pass (fun _ _ => rfl) bind_assoc_pass

/-! ### Runs -/

/-- Runs a program in surroundings that answer each question and may change as they do. -/
def run {State Value : Type} (answer : (request : Request) → State → request.Answer × State) :
    Pass Value → State → Value × State
  | .done value, state => (value, state)
  | .asking request next, state =>
    let (reply, state) := answer request state
    (next reply).run answer state

end Pass

/-! ### What a component answers -/

namespace Component

/-- The phase of the component; a plain one stands in phase zero. -/
def phase (component : Component) : Pass Int :=
  match component.capability with
  | .plain => pure 0
  | .phased | .smart => Pass.ask (.phase component)

/-- Whether the component starts by itself; only a smart one may decline. -/
def isAutoStartup (component : Component) : Pass Bool :=
  match component.capability with
  | .plain | .phased => pure true
  | .smart => Pass.ask (.isAutoStartup component)

/-- Whether a start pass is to start the component: any, or only one that starts by itself. -/
def isWanted (autoOnly : Bool) (component : Component) : Pass Bool :=
  if autoOnly then component.isAutoStartup else pure true

/-- The name of the component's capability. -/
def kind (component : Component) : String :=
  component.capability.label

end Component

end PhasedLifecycle
