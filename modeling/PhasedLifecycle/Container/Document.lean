/-
This file reads and writes the status and the figures of a container as JSON documents.
-/

import PhasedLifecycle.Container
import PhasedLifecycle.Instant.Notation
import PhasedLifecycle.Json.Fields
import PhasedLifecycle.Json.Reader

namespace PhasedLifecycle

namespace ContainerStatus

/-- The status as a document. -/
def toJson (status : ContainerStatus) : Json :=
  .text status.label

/-- The status that a document describes: its name, alone or as the one key of an object that has
nothing to say about it. -/
def ofJson? : Json → Option ContainerStatus
  | .text label => ofLabel? label
  | .object [(some label, .null)] => ofLabel? label
  | _ => none

/-- The status that a text describes. -/
def read? (text : String) : Option ContainerStatus :=
  (Json.read? text).bind ofJson?

end ContainerStatus

namespace Metrics

/-- A value that may be absent, as a document. -/
def optionalJson {Value : Type} (toJson : Value → Json) (value : Option Value) : Json :=
  (value.map toJson).getD .null

/-- The figures as a document. -/
def toJson (metrics : Metrics) : Json :=
  Json.ofEntries
    [("start_time", optionalJson (fun instant => .text instant.write) metrics.startTime),
      ("stop_time", optionalJson (fun instant => .text instant.write) metrics.stopTime),
      ("startup_duration_ms", optionalJson .whole metrics.startupDuration),
      ("shutdown_duration_ms", optionalJson .whole metrics.shutdownDuration),
      ("registered_components_count", .whole metrics.registered),
      ("running_components_count", .whole metrics.running),
      ("stop_failures_count", .whole metrics.stopFailures),
      ("timed_out_phases_count", .whole metrics.timedOutPhases)]

/-- The instant that a document describes. -/
def instantOfJson? (json : Json) : Option Instant :=
  json.text?.bind Instant.read?

/-- The count that a document describes. -/
def countOfJson? (json : Json) : Option Nat :=
  (json.whole? word64).map Int.toNat

/-- The names of the figures. -/
def fieldNames : List String :=
  ["start_time", "stop_time", "startup_duration_ms", "shutdown_duration_ms",
    "registered_components_count", "running_components_count", "stop_failures_count",
    "timed_out_phases_count"]

/-- The figures that a document describes. -/
def ofJson? (json : Json) : Option Metrics := do
  match ← json.fields? fieldNames false with
  | [startTime, stopTime, startup, shutdown, some registered, some running, some stopFailures,
      some timedOutPhases] =>
    return {
      startTime := ← Json.optional? instantOfJson? startTime
      stopTime := ← Json.optional? instantOfJson? stopTime
      startupDuration := ← Json.optional? (Json.whole? signed64) startup
      shutdownDuration := ← Json.optional? (Json.whole? signed64) shutdown
      registered := ← countOfJson? registered
      running := ← countOfJson? running
      stopFailures := ← countOfJson? stopFailures
      timedOutPhases := ← countOfJson? timedOutPhases }
  | _ => none

/-- The figures that a text describes. -/
def read? (text : String) : Option Metrics :=
  (Json.read? text).bind ofJson?

end Metrics

end PhasedLifecycle
