/-
This file writes the lines of a log, as JSON documents or as text. Of the optional parts of a line,
it writes the area; there are no threads and no source files to name.
-/

import PhasedLifecycle.Instant.Notation
import PhasedLifecycle.Json
import PhasedLifecycle.Logging

namespace PhasedLifecycle.Logging.Line

/-- The line as a document. -/
def toJson (line : Line) (now : Instant) : Json :=
  Json.ofEntries
    ([("timestamp", .text now.write), ("level", .text line.severity.label),
      ("fields", Json.ofEntries [("message", .text line.message)])] ++
      if line.config.showsArea then [("target", .text line.area)] else [])

/-- The line in the format of its log. -/
def write (line : Line) (now : Instant) : String :=
  if line.config.isJson then (line.toJson now).write
  else now.write ++ " " ++ line.severity.label ++ " " ++
    (if line.config.showsArea then line.area ++ ": " else "") ++ line.message

end PhasedLifecycle.Logging.Line
