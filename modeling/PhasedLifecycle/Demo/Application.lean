/-
This file holds the demonstration: a database, a cache and a message consumer that depend on one
another, and a reporter that is only started by hand. They are built into a container, started,
left running for a time, and stopped again; the consumer drains its queue in the background before
its stop is complete. The demonstration plays on a virtual clock.
-/

import PhasedLifecycle.Demo.Arguments
import PhasedLifecycle.Logging
import PhasedLifecycle.Rehearsal.Play
import PhasedLifecycle.Settings.TreeLibrary

namespace PhasedLifecycle.Demo

open Rehearsal

/-! ### The components -/

/-- The application's own report of a fact. -/
def inform (text : String) : Notice :=
  .application .info text

/-- The pool of database connections, the first to start and the last to stop. -/
def database : Actor :=
  { id := "database"
    kind := .phased
    phase := -100
    startScript := { notices := [inform "数据库连接池已打开"] }
    stopScript := { notices := [inform "数据库连接池已关闭"] } }

/-- The cache. -/
def cache : Actor :=
  { id := "cache"
    kind := .plain
    startScript := { notices := [inform "缓存已预热"] }
    stopScript := { notices := [inform "缓存已清空"] } }

/-- The consumer of messages, which takes a time to drain its queue. -/
def consumer (drain : Nat) : Actor :=
  { id := "consumer"
    kind := .smart
    phase := 100
    startScript := { notices := [inform "消息消费者已订阅"] }
    stopAsyncScript :=
      { ending := .delayed drain .completed false
        notices := [inform ("消息消费者开始排空队列，预计 " ++ toString drain ++ "ms")]
        lateNotices := [inform "消息消费者已排空"] } }

/-- The reporter of figures, which does not start by itself. -/
def reporter : Actor :=
  { id := "reporter", kind := .smart, phase := lastPhase, auto := false }

/-- All components, in the order in which they are registered. -/
def components (drain : Nat) : List Actor :=
  [database, cache, consumer drain, reporter]

/-- What the container is built from. -/
def script (arguments : Arguments) (source : SettingsSource) : BuildScript :=
  { roles := (components arguments.drain).map fun actor => { name := actor.id, actor := actor.id }
    dependencies := [("cache", "database"), ("consumer", "cache")]
    settings := arguments.timeout.map fun timeout => { timeout }
    source }

/-! ### What comes of it -/

/-- What the demonstration comes to: the status it exits with, the lines of its log before and
after its results, these being the report of its stop and the figures of its life, the lines of its
complaint, and the milliseconds it took. -/
structure Outcome where
  exit : Nat := 0
  lines : List Logging.Line := []
  report : Option StopReport := none
  metrics : Option Metrics := none
  lastLines : List Logging.Line := []
  complaint : List String := []
  elapsed : Nat := 0

/-- All lines of the log. -/
def Outcome.log (outcome : Outcome) : List Logging.Line :=
  outcome.lines ++ outcome.lastLines

/-- The lines that tell of a failure: what was attempted, and the causes below each other, with
numbers where there are several. -/
def complain (attempt : String) (error : InfrastructureError) : List String :=
  let causes := match error.sources with
    | [] => ["    " ++ error.message]
    | sources => (error.message :: sources).zipIdx.map fun (cause, number) =>
      "    " ++ toString number ++ ": " ++ cause
  ["Error: " ++ attempt, "", "Caused by:"] ++ causes

/-- The failure that a step answers, if it does. -/
def failure? : Result → Option InfrastructureError
  | .infrastructureError error => some error
  | _ => none

/-- Takes steps as long as they do not fail. With each come the notices to report before it, and
what a failure is a failure of. -/
def proceed : List (List Notice × String × Step) → World → Except (List String × World) World
  | [], world => .ok world
  | (notices, attempt, step) :: rest, world =>
    let (result, world) := World.take step (world.report notices)
    match failure? result with
    | some error => .error (complain attempt error, world)
    | none => proceed rest world

/-- The steps of the demonstration up to its stop. -/
def steps (arguments : Arguments) (source : SettingsSource) : List (List Notice × String × Step) :=
  let awaited : List Notice := if arguments.runFor.isSome then [] else [inform "按 Ctrl+C 退出"]
  [([], "构建生命周期容器失败", .build (script arguments source)),
    ([inform "启动 Lorn ADSP 示例应用"], "刷新生命周期容器失败", .refresh),
    (awaited, "", .sleep (arguments.runFor.getD 0)),
    ([inform "收到退出信号，正在关闭应用"], "关闭生命周期容器失败", .close)]

/-- The container at the end. -/
def containerOf (world : World) : Option Container :=
  world.housings.getLast?.map (·.container)

/-- What is reported about the stop, before its results are shown. -/
def assess (report : Option StopReport) : List Notice :=
  if report.all (·.isClean) then [] else [.application .warn "部分组件未正常停止"]

/-- Runs the demonstration from an instant on. What is reported before the container is built comes
too early for the log. -/
def run (arguments : Arguments) (contentOf? : String → Option String)
    (environment : List (String × String)) (start : Nat) : Outcome :=
  let config : Logging.Config :=
    if arguments.isProduction then .production else .development
  let source :=
    ({ base := arguments.base } : Settings.Sources).bind contentOf? environment
  let log := ({} : Logging.Log).setUp config environment
  let lines := (log.toOption.getD {}).lines
  let heard (world : World) := lines
    (.loggingReady :: world.notices.reverse.dropWhile (· != .building))
  let world := { actors := components arguments.drain, clock := start : World }
  match proceed (steps arguments source) world with
  | .error (complaint, world) => { exit := 1, lines := heard world, complaint }
  | .ok world =>
    let container := containerOf world
    let report := container.bind (·.lastReport)
    { lines := heard (world.report (assess report))
      report
      metrics := container.map (·.metrics)
      lastLines := lines [inform "应用已关闭"]
      elapsed := world.clock - start }

/-- Does what a command line asks for. -/
def invoke (invocation : Invocation) (contentOf? : String → Option String)
    (environment : List (String × String)) (start : Nat) : Outcome :=
  match invocation with
  | .run arguments => run arguments contentOf? environment start
  | .help => {}
  | .malformed => { exit := 2 }

end PhasedLifecycle.Demo
