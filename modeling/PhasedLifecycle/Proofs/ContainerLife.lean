/-
This file tells the life of a container, moment by moment. A refresh and a close begin, or are refused,
and end; in between anything may happen, other refreshes and closes included, whoever asks for them and
whenever. The status alone decides what is accepted, so from a whole life only one story is left once the
refusals are dropped: the container is refreshed or not, and then closed or not, one after the other.
-/

import PhasedLifecycle.Container

namespace PhasedLifecycle

/-! ### What the status accepts -/

theorem ContainerStatus.allowsRefresh_iff (status : ContainerStatus) :
    status.allowsRefresh = true ↔ status = .initialized := by
  cases status <;> decide

theorem ContainerStatus.allowsClose_iff (status : ContainerStatus) :
    status.allowsClose = true ↔
      status = .initialized ∨ status = .running ∨ status = .failed := by
  cases status <;> decide

namespace Container

variable {container after : Container} {error : InfrastructureError} {now : Instant}
  {registered : Nat}

/-- A new container accepts a refresh, and no other does. -/
theorem beginRefresh_eq_ok_iff :
    container.beginRefresh now registered = .ok after ↔ container.status = .initialized ∧
      after = { container with
        status := .starting
        metrics := { container.metrics with startTime := some now, registered } } := by
  unfold beginRefresh
  rw [← ContainerStatus.allowsRefresh_iff]
  split
  · rename_i allowed
    exact ⟨fun same => ⟨allowed, (Except.ok.inj same).symm⟩, fun same => congrArg _ same.2.symm⟩
  · rename_i rejected
    exact ⟨nofun, fun same => absurd same.1 rejected⟩

/-- A refresh that is not accepted is refused with the status. -/
theorem beginRefresh_eq_error_iff :
    container.beginRefresh now registered = .error error ↔ container.status ≠ .initialized ∧
      error = refusal container.status "刷新" := by
  unfold beginRefresh
  rw [Ne, ← ContainerStatus.allowsRefresh_iff]
  split
  · rename_i allowed
    exact ⟨nofun, fun same => absurd allowed same.1⟩
  · rename_i rejected
    exact ⟨fun same => ⟨rejected, (Except.error.inj same).symm⟩, fun same => congrArg _ same.2.symm⟩

/-- A new, a running and a failed container accept a close, and no other does. -/
theorem beginClose_eq_ok_iff :
    container.beginClose = .ok after ↔
      (container.status = .initialized ∨ container.status = .running ∨
        container.status = .failed) ∧ after = { container with status := .stopping } := by
  unfold beginClose
  rw [← ContainerStatus.allowsClose_iff]
  split
  · rename_i allowed
    exact ⟨fun same => ⟨allowed, (Except.ok.inj same).symm⟩, fun same => congrArg _ same.2.symm⟩
  · rename_i rejected
    exact ⟨nofun, fun same => absurd same.1 rejected⟩

/-- A close that is not accepted is refused with the status. -/
theorem beginClose_eq_error_iff :
    container.beginClose = .error error ↔
      ¬ (container.status = .initialized ∨ container.status = .running ∨
        container.status = .failed) ∧ error = refusal container.status "关闭" := by
  unfold beginClose
  rw [← ContainerStatus.allowsClose_iff]
  split
  · rename_i allowed
    exact ⟨nofun, fun same => absurd allowed same.1⟩
  · rename_i rejected
    exact ⟨fun same => ⟨rejected, (Except.error.inj same).symm⟩, fun same => congrArg _ same.2.symm⟩

end Container

/-! ### Moments -/

/-- What can happen to a container. -/
inductive Moment where
  | refreshBegins (now : Instant) (registered : Nat)
  | refreshRefused (error : InfrastructureError)
  | refreshEnds (elapsed : Int) (running : Nat) (outcome : Except LifecycleError Unit)
  | closeBegins
  | closeRefused (error : InfrastructureError)
  | closeEnds (now : Instant) (elapsed : Int) (running : Nat) (report : StopReport)

namespace Moment

def beginsRefresh : Moment → Bool
  | .refreshBegins _ _ => true
  | _ => false

/-- The status that the container takes on at the moment, unless an operation is refused. -/
def status? : Moment → Option ContainerStatus
  | .refreshBegins _ _ => some .starting
  | .refreshEnds _ _ (.ok _) => some .running
  | .refreshEnds _ _ (.error _) => some .failed
  | .closeBegins => some .stopping
  | .closeEnds _ _ _ _ => some .stopped
  | .refreshRefused _ | .closeRefused _ => none

/-- Whether an operation is refused at the moment. -/
def isRefusal : Moment → Bool
  | .refreshRefused _ | .closeRefused _ => true
  | _ => false

theorem beginsRefresh_and_not_isRefusal (moment : Moment) :
    (moment.beginsRefresh && !moment.isRefusal) = moment.beginsRefresh := by
  cases moment <;> rfl

end Moment

/-- A container with the numbers of its refreshes and closes under way. -/
structure Stage where
  container : Container
  refreshing : Nat := 0
  closing : Nat := 0

namespace Stage

/-- What a moment does to a container. Only an operation under way can end. -/
inductive Undergoes : Stage → Moment → Stage → Prop
  | refreshBegins {stage : Stage} {now : Instant} {registered : Nat} {container : Container}
    (accepted : stage.container.beginRefresh now registered = .ok container) :
    Undergoes stage (.refreshBegins now registered)
      { stage with container, refreshing := stage.refreshing + 1 }
  | refreshRefused {stage : Stage} {now : Instant} {registered : Nat} {error : InfrastructureError}
    (refused : stage.container.beginRefresh now registered = .error error) :
    Undergoes stage (.refreshRefused error) stage
  | refreshEnds {container : Container} {refreshing closing : Nat} (elapsed : Int) (running : Nat)
    (outcome : Except LifecycleError Unit) :
    Undergoes { container, refreshing := refreshing + 1, closing }
      (.refreshEnds elapsed running outcome)
      { container := container.finishRefresh elapsed running outcome, refreshing, closing }
  | closeBegins {stage : Stage} {container : Container}
    (accepted : stage.container.beginClose = .ok container) :
    Undergoes stage .closeBegins { stage with container, closing := stage.closing + 1 }
  | closeRefused {stage : Stage} {error : InfrastructureError}
    (refused : stage.container.beginClose = .error error) :
    Undergoes stage (.closeRefused error) stage
  | closeEnds {container : Container} {refreshing closing : Nat} (now : Instant) (elapsed : Int)
    (running : Nat) (report : StopReport) :
    Undergoes { container, refreshing, closing := closing + 1 }
      (.closeEnds now elapsed running report)
      { container := container.finishClose now elapsed running (.ok report), refreshing, closing }

end Stage

/-- Moments, one after the other, lead from one stage to another. -/
inductive Life : Stage → List Moment → Stage → Prop
  | done (stage : Stage) : Life stage [] stage
  | next {before middle after : Stage} {moment : Moment} {moments : List Moment}
    (first : before.Undergoes moment middle) (later : Life middle moments after) :
    Life before (moment :: moments) after

namespace Life

variable {start middle last : Stage} {first second : List Moment}

theorem single {moment : Moment} (only : start.Undergoes moment last) : Life start [moment] last :=
  .next only (.done last)

theorem eq_of_nil (life : Life start [] last) : last = start := by
  cases life
  rfl

theorem append (earlier : Life start first middle) (later : Life middle second last) :
    Life start (first ++ second) last := by
  induction earlier with
  | done stage => exact later
  | next step _ inductionHypothesis => exact .next step (inductionHypothesis later)

/-- A life comes through a stage between any two parts of it. -/
theorem split (life : Life start (first ++ second) last) :
    ∃ middle, Life start first middle ∧ Life middle second last := by
  induction first generalizing start with
  | nil => exact ⟨start, .done start, life⟩
  | cons earlier first inductionHypothesis =>
    cases life with
    | next step later =>
      obtain ⟨middle, toMiddle, onward⟩ := inductionHypothesis later
      exact ⟨middle, .next step toMiddle, onward⟩

end Life

/-! ### The story of a container -/

/-- What a container accepted before it accepts a close, and what became of it: nothing, or a refresh
from its beginning to its end. -/
inductive Begun (settings : Settings) (registered : Nat) : List Moment → Container → Prop
  | fresh : Begun settings registered [] (.create settings registered)
  | refreshed {now : Instant} {present : Nat} {container : Container}
    (accepted : (Container.create settings registered).beginRefresh now present = .ok container)
    (elapsed : Int) (running : Nat) (outcome : Except LifecycleError Unit) :
    Begun settings registered
      [.refreshBegins now present, .refreshEnds elapsed running outcome]
      (container.finishRefresh elapsed running outcome)

/-- What a container accepted, and what stage it is in: one operation after the other, a refresh before a
close, and none twice. -/
inductive Story (settings : Settings) (registered : Nat) : List Moment → Stage → Prop
  | idle {moments : List Moment} {container : Container}
    (begun : Begun settings registered moments container) :
    Story settings registered moments { container }
  | refreshing {now : Instant} {present : Nat} {container : Container}
    (accepted : (Container.create settings registered).beginRefresh now present = .ok container) :
    Story settings registered [.refreshBegins now present] { container, refreshing := 1 }
  | closing {moments : List Moment} {container left : Container}
    (begun : Begun settings registered moments container)
    (accepted : container.beginClose = .ok left) :
    Story settings registered (moments ++ [.closeBegins]) { container := left, closing := 1 }
  | closed {moments : List Moment} {container left : Container}
    (begun : Begun settings registered moments container)
    (accepted : container.beginClose = .ok left) (now : Instant) (elapsed : Int) (running : Nat)
    (report : StopReport) :
    Story settings registered (moments ++ [.closeBegins, .closeEnds now elapsed running report])
      { container := left.finishClose now elapsed running (.ok report) }

section

variable {settings : Settings} {registered : Nat} {moments : List Moment} {container : Container}
  {before after stage : Stage} {moment : Moment}

/-- A container that a refresh came to an end in runs or failed. -/
theorem Begun.status (begun : Begun settings registered moments container) :
    (moments = [] ∧ container = .create settings registered) ∨
      container.status = .running ∨ container.status = .failed := by
  cases begun with
  | fresh => exact Or.inl ⟨rfl, rfl⟩
  | refreshed accepted elapsed running outcome =>
    cases outcome with
    | ok done => exact Or.inr (Or.inl rfl)
    | error error => exact Or.inr (Or.inr rfl)

/-- Where a close is accepted, nothing is under way. -/
theorem Story.idle_of_closable (story : Story settings registered moments stage)
    (closable : stage.container.status = .initialized ∨ stage.container.status = .running ∨
      stage.container.status = .failed) :
    ∃ container, Begun settings registered moments container ∧ stage = { container } := by
  cases story with
  | idle begun => exact ⟨_, begun, rfl⟩
  | refreshing accepted =>
    rw [(Container.beginRefresh_eq_ok_iff.mp accepted).2] at closable
    rcases closable with new | running | failed
    all_goals contradiction
  | closing begun accepted =>
    rw [(Container.beginClose_eq_ok_iff.mp accepted).2] at closable
    rcases closable with new | running | failed
    all_goals contradiction
  | closed begun accepted now elapsed running report =>
    rcases closable with new | running | failed
    all_goals contradiction

/-- Where a refresh is accepted, nothing has happened yet. -/
theorem Story.fresh_of_initialized (story : Story settings registered moments stage)
    (new : stage.container.status = .initialized) :
    moments = [] ∧ stage = { container := .create settings registered } := by
  obtain ⟨container, begun, rfl⟩ := story.idle_of_closable (Or.inl new)
  rcases begun.status with ⟨rfl, rfl⟩ | running | failed
  · exact ⟨rfl, rfl⟩
  · rw [running] at new
    cases new
  · rw [failed] at new
    cases new

/-- Each moment goes on with the story, unless it is a refusal. -/
theorem Story.step (story : Story settings registered moments before)
    (undergoes : before.Undergoes moment after) :
    Story settings registered (moments ++ if moment.isRefusal then [] else [moment]) after := by
  cases undergoes with
  | refreshRefused refused => exact (List.append_nil moments).symm ▸ story
  | closeRefused refused => exact (List.append_nil moments).symm ▸ story
  | refreshBegins accepted =>
    obtain ⟨rfl, rfl⟩ := story.fresh_of_initialized (Container.beginRefresh_eq_ok_iff.mp accepted).1
    exact .refreshing accepted
  | closeBegins accepted =>
    obtain ⟨container, begun, rfl⟩ :=
      story.idle_of_closable (Container.beginClose_eq_ok_iff.mp accepted).1
    exact .closing begun accepted
  | refreshEnds elapsed running outcome =>
    cases story with
    | refreshing accepted => exact .idle (.refreshed accepted elapsed running outcome)
  | closeEnds now elapsed running report =>
    cases story with
    | closing begun accepted =>
      rw [List.append_assoc]
      exact .closed begun accepted now elapsed running report

/-- Whatever happens to a new container, what it accepts makes one story. -/
theorem Life.story (life : Life { container := .create settings registered } moments stage) :
    Story settings registered (moments.filter (!·.isRefusal)) stage := by
  have all : ∀ {before after : Stage} {accepted moments : List Moment},
      Story settings registered accepted before → Life before moments after →
        Story settings registered (accepted ++ moments.filter (!·.isRefusal)) after := by
    intro before after accepted moments story life
    induction life generalizing accepted with
    | done stage => exact (List.append_nil accepted).symm ▸ story
    | @next before middle after moment moments first later inductionHypothesis =>
      have onward := inductionHypothesis (story.step first)
      rw [List.append_assoc] at onward
      rw [List.filter_cons]
      cases refusal : moment.isRefusal with
      | true =>
        rw [refusal] at onward
        exact onward
      | false =>
        rw [refusal] at onward
        exact onward
  exact all (.idle .fresh) life

end

/-! ### The order of statuses -/

/-- Whether a status can come after another. -/
def ContainerStatus.mayBecome : ContainerStatus → ContainerStatus → Bool
  | .initialized, .starting | .starting, .running | .starting, .failed => true
  | .initialized, .stopping | .running, .stopping | .failed, .stopping => true
  | .stopping, .stopped => true
  | _, _ => false

end PhasedLifecycle
