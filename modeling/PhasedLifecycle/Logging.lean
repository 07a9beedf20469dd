/-
This file models the log of a process. A log is set up once, by a configuration that says how much
it shows and in which format; setting it up again is refused. Notices that arise before that are
lost.
-/

import PhasedLifecycle.Blueprint
import PhasedLifecycle.Logging.Filter

namespace PhasedLifecycle.Logging

/-! ### Configurations -/

/-- How a log is to be written: a `LoggingConfig`. -/
structure Config where
  level : Severity := .info
  showsArea : Bool := true
  showsThread : Bool := false
  showsFile : Bool := false
  showsLine : Bool := false
  isJson : Bool := false
  deriving DecidableEq

namespace Config

/-- The configuration for development: it shows much, as text. -/
def development : Config :=
  { level := .debug, showsThread := true, showsFile := true, showsLine := true }

/-- The configuration for production: it shows little, as JSON. -/
def production : Config :=
  { showsArea := false, isJson := true }

/-- The variable that overrides the level of a configuration. -/
def filterVariable : String := "RUST_LOG"

/-- The filter of a log: the one that a variable holds, if it is sound, else the level. -/
def filter (config : Config) (environment : List (String × String)) : Filter :=
  match (environment.lookup filterVariable).bind Filter.read? with
  | some filter => filter
  | none => Filter.ofThreshold (some config.level)

/-- The keys of a written line: those that every line has, and those that are asked for. -/
def jsonKeys (config : Config) : List String :=
  ["fields"] ++ (if config.showsFile then ["filename"] else []) ++ ["level"] ++
    (if config.showsLine then ["line_number"] else []) ++
    (if config.showsArea then ["target"] else []) ++
    (if config.showsThread then ["threadId"] else []) ++ ["timestamp"]

/-- What a line of text shows besides its time, severity and message. -/
def textParts (config : Config) : List String :=
  (if config.showsArea then ["target"] else []) ++
    (if config.showsThread then ["thread_ids"] else []) ++
    (if config.showsFile then ["file"] else []) ++
    (if config.showsLine then ["line"] else [])

/-- The names of the parts that a line consists of. -/
def parts (config : Config) : List String :=
  if config.isJson then config.jsonKeys else config.textParts

end Config

/-! ### The log -/

/-- A line of a log: what a notice says, and how it is to be written. -/
structure Line where
  severity : Severity
  area : String
  message : String
  config : Config
  deriving DecidableEq

/-- The log of a process: its configuration and filter, once it is set up. -/
structure Log where
  settled : Option (Config × Filter) := none
  deriving DecidableEq

namespace Log

/-- The refusal to set up a log twice. -/
def refusal : InfrastructureError :=
  .bootstrapFailed "日志初始化失败: a global default trace dispatcher has already been set"

/-- Sets the log up. -/
def setUp (log : Log) (config : Config) (environment : List (String × String)) :
    Except InfrastructureError Log :=
  match log.settled with
  | none => .ok { settled := some (config, config.filter environment) }
  | some _ => .error refusal

/-- The lines that the log writes for notices. -/
def lines (log : Log) (notices : List Notice) : List Line :=
  match log.settled with
  | none => []
  | some (config, filter) => (notices.filter filter.lets).map fun notice =>
    { severity := notice.severity, area := notice.area, message := notice.message, config }

/-- Sets the log up, reports that, and then builds a container. -/
def build (log : Log) (config : Config) (environment : List (String × String))
    (blueprint : Blueprint) (registry : Registry) : Build Container × Log :=
  match log.setUp config environment with
  | .error error => ({ outcome := .error error, registry }, log)
  | .ok log =>
    let build := blueprint.build registry
    ({ build with notices := .loggingReady :: build.notices }, log)

theorem setUp_eq_error_iff (log : Log) (config : Config) (environment : List (String × String)) :
    log.setUp config environment = .error refusal ↔ log.settled.isSome = true := by
  unfold setUp
  split <;> simp_all

end Log

end PhasedLifecycle.Logging
