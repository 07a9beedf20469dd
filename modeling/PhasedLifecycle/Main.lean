/-
This file is the command line of the demonstration. It reads the files and variables that settings
may come from, runs the demonstration, lets the time pass that it took on its virtual clock, and
prints what came of it.
-/

import PhasedLifecycle.Container.Document
import PhasedLifecycle.Demo.Application
import PhasedLifecycle.Logging.Document
import PhasedLifecycle.Report.Document
import Std.Time.DateTime.Timestamp

namespace PhasedLifecycle.Demo

/-- The milliseconds since the beginning of 1970. -/
def currentTime : IO Nat := do
  return (← Std.Time.Timestamp.now).toMillisecondsSinceUnixEpoch.val.toNat

/-- The contents of the files at some paths, as far as they can be read. -/
def readContents (paths : List String) : IO (List (String × String)) := do
  let mut contents := []
  for path in paths do
    try contents := (path, ← IO.FS.readFile path) :: contents
    catch _ => pure ()
  return contents

/-- The variables of the environment. -/
def readVariables : IO (List (String × String)) := do
  let listing ← try IO.FS.readFile "/proc/self/environ" catch _ => pure ""
  return (listing.splitOn "\x00").filterMap fun entry =>
    match entry.splitOn "=" with
    | name :: value :: rest => some (name, "=".intercalate (value :: rest))
    | _ => none

/-- Prints lines of a log. -/
def printLog (lines : List Logging.Line) : IO Unit := do
  let now := Instant.ofMilliseconds (← currentTime)
  for line in lines do
    IO.println (line.write now)

/-- Runs the demonstration, and shows what came of it. Without a time to run for, it runs until a
line is entered. -/
def perform (arguments : Arguments) : IO UInt32 := do
  let sources : Settings.Sources := { base := arguments.base }
  let contents ← readContents sources.candidates
  let environment ← readVariables
  let outcome := run arguments (fun path => contents.lookup path) environment (← currentTime)
  if arguments.runFor.isNone then
    discard (← IO.getStdin).getLine
  IO.sleep outcome.elapsed.toUInt32
  printLog outcome.lines
  for report in outcome.report do
    IO.println (report.toJson.writeIndented "")
  for metrics in outcome.metrics do
    IO.println (metrics.toJson.writeIndented "")
  printLog outcome.lastLines
  for line in outcome.complaint do
    IO.eprintln line
  return outcome.exit.toUInt32

end PhasedLifecycle.Demo

/-- Does what the command line asks for. -/
def main (arguments : List String) : IO UInt32 := do
  match PhasedLifecycle.Demo.Invocation.ofArguments arguments with
  | .help =>
    IO.print PhasedLifecycle.Demo.help
    return 0
  | .malformed =>
    IO.eprint PhasedLifecycle.Demo.help
    return 2
  | .run arguments => PhasedLifecycle.Demo.perform arguments
