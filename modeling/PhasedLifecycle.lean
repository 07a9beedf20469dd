import PhasedLifecycle.Json.Tree
import PhasedLifecycle.Main
import PhasedLifecycle.Proofs.Descent
import PhasedLifecycle.Proofs.Record
import PhasedLifecycle.Rehearsal.Desk
import PhasedLifecycle.Settings.Document
import PhasedLifecycle.Proofs.Groups
import PhasedLifecycle.Proofs.StartOrder
import PhasedLifecycle.Proofs.Surroundings
import PhasedLifecycle.Proofs.Waiting
import PhasedLifecycle.Proofs.StopTraversal
import PhasedLifecycle.Proofs.StopRounds
import PhasedLifecycle.Proofs.BarrierCount
import PhasedLifecycle.Proofs.StopAccount
import PhasedLifecycle.Proofs.CircleSearch
import PhasedLifecycle.Proofs.CircleDetection
import PhasedLifecycle.Proofs.RegistryHistory
import PhasedLifecycle.Proofs.StopOrder
import PhasedLifecycle.Proofs.CircleOrder
import PhasedLifecycle.Proofs.Habits
import PhasedLifecycle.Proofs.DependentsFirst
import PhasedLifecycle.Proofs.PhaseBarrier
import PhasedLifecycle.Proofs.FinishedDependents
import PhasedLifecycle.Proofs.StartTraversal
import PhasedLifecycle.Proofs.Recursion
import PhasedLifecycle.Proofs.Questions
import PhasedLifecycle.Proofs.Robustness
import PhasedLifecycle.Proofs.FixedAnswers
import PhasedLifecycle.Proofs.StartPlan
import PhasedLifecycle.Proofs.Retries
import PhasedLifecycle.Proofs.Courses
import PhasedLifecycle.Proofs.FailedStart
import PhasedLifecycle.Proofs.ContainerLife
import PhasedLifecycle.Proofs.Reentry
import PhasedLifecycle.Proofs.OneLife
import PhasedLifecycle.Proofs.ContainerFigures
import PhasedLifecycle.Proofs.RegistryModel
import PhasedLifecycle.Proofs.Lockstep
import PhasedLifecycle.Proofs.OwnBarrier
import PhasedLifecycle.Proofs.BarrierYard
import PhasedLifecycle.Proofs.LateSignals
import PhasedLifecycle.Proofs.Activity
import PhasedLifecycle.Proofs.FullStart
import PhasedLifecycle.Proofs.WellBehavedPasses
import PhasedLifecycle.Proofs.OrchestratedRuns
import PhasedLifecycle.Proofs.StartStretches
import PhasedLifecycle.Proofs.ExactStarts
import PhasedLifecycle.Proofs.PhaseOrder
import PhasedLifecycle.Proofs.StableOrder
import PhasedLifecycle.Proofs.FlatPasses
import PhasedLifecycle.Proofs.WaitOutcome
import PhasedLifecycle.Proofs.Drained
import PhasedLifecycle.Proofs.ReportShape
import PhasedLifecycle.Proofs.Building
import PhasedLifecycle.Proofs.TreeLibrary
import PhasedLifecycle.Proofs.Masking
