/-
This file reads the arguments of the demonstration's command line. Options are long, and take their
value either behind an equals sign or as the next argument; no option may be repeated, and nothing
else is accepted. Arguments are read from the left: the first that is malformed, or that asks for
help, decides.
-/

import PhasedLifecycle.Number.Decimal

namespace PhasedLifecycle.Demo

/-- What the demonstration is asked to do. Times count milliseconds. -/
structure Arguments where
  /-- The folder of the settings. -/
  base : String := "."
  /-- A timeout that overrides the settings. -/
  timeout : Option Nat := none
  /-- How long to run; absent, until it is interrupted. -/
  runFor : Option Nat := none
  /-- How long the consumer takes to drain its queue. -/
  drain : Nat := 200
  isProduction : Bool := false
  deriving DecidableEq

/-- How the command line is to be understood. -/
inductive Invocation where
  | run (arguments : Arguments)
  | help
  | malformed
  deriving DecidableEq

namespace Arguments

/-- The name of the option without a value. -/
def productionOption : String := "production"

/-- A time. -/
def time? (text : String) : Option Nat :=
  (word64.read? text.toList).map Int.toNat

/-- The arguments with the value of an option; absent where there is no such option, or it does not
take such a value. -/
def set? (arguments : Arguments) (option value : String) : Option Arguments :=
  match option with
  | "config-dir" => some { arguments with base := value }
  | "timeout-ms" => (time? value).map fun time => { arguments with timeout := some time }
  | "run-for-ms" => (time? value).map fun time => { arguments with runFor := some time }
  | "drain-ms" => (time? value).map fun time => { arguments with drain := time }
  | _ => none

/-- Whether an argument can be the value of the option before it. -/
def isValue (argument : String) : Bool :=
  argument = "-" || !argument.startsWith "-"

/-- The name of an option, and its value where that is attached. -/
def divide (option : List Char) : String × Option String :=
  let name := String.ofList (option.takeWhile (· != '='))
  match option.dropWhile (· != '=') with
  | _ :: value => (name, some (String.ofList value))
  | [] => (name, none)

/-- Reads arguments, behind some options that were read already. -/
def read (arguments : Arguments) (seen : List String) : List String → Invocation
  | [] => .run arguments
  | argument :: rest =>
    match argument.toList with
    | ['-', '-'] => if rest.isEmpty then .run arguments else .malformed
    | '-' :: '-' :: option =>
      match divide option with
      | ("help", none) => .help
      | (name, attached) =>
        if seen.contains name then .malformed
        else if name = productionOption then
          if attached.isSome then .malformed
          else read { arguments with isProduction := true } (name :: seen) rest
        else
          match attached, rest with
          | some value, rest =>
            match arguments.set? name value with
            | some arguments => read arguments (name :: seen) rest
            | none => .malformed
          | none, value :: rest =>
            match if isValue value then arguments.set? name value else none with
            | some arguments => read arguments (name :: seen) rest
            | none => .malformed
          | none, [] => .malformed
    | '-' :: 'h' :: _ => .help
    | _ => .malformed

end Arguments

/-! ### The command line -/

/-- How a command line is to be understood. -/
def Invocation.ofArguments (arguments : List String) : Invocation :=
  Arguments.read {} [] arguments

/-- What the command line accepts. -/
def help : String :=
  "Lorn ADSP 生命周期编排示例应用\n\n" ++
  "Options:\n" ++
  "      --config-dir <FOLDER>  配置文件根目录（读取其中的 config/app 和 config/local） [default: .]\n" ++
  "      --timeout-ms <TIME>    覆盖每个停止阶段的超时时间（毫秒）\n" ++
  "      --run-for-ms <TIME>    运行指定毫秒后自动关闭，不指定时等待 Ctrl+C\n" ++
  "      --drain-ms <TIME>      消息消费者排空队列所需的时间（毫秒） [default: 200]\n" ++
  "      --production           使用生产环境日志格式（JSON）\n" ++
  "  -h, --help                 Print help\n"

end PhasedLifecycle.Demo
