/-
This file lists the ways in which configuring, wiring and running phased components can fail. An
error is a cause with its data; three functions show it: `message` for people, `diagnostic` with
all fields, and `sources` with the messages of the causes below it, outermost first.
-/

import PhasedLifecycle.Text.Quoted

namespace PhasedLifecycle

/-! ### Configuration -/

/-- A failure to obtain the settings. -/
inductive ConfigError where
  /-- The sources could not be read as settings; the detail is the reader's own message. -/
  | unreadable (detail : String)
  /-- The settings were read but break a rule. -/
  | invalid (rule : String)
  deriving DecidableEq

/-- The message shown to people. -/
def ConfigError.message : ConfigError → String
  | .unreadable detail => "配置解析失败: " ++ detail
  | .invalid rule => "配置验证失败: " ++ rule

/-- The error with all its fields. -/
def ConfigError.diagnostic : ConfigError → String
  | .unreadable detail => Text.record "ParseError" [("source", Text.quoted detail)]
  | .invalid rule => Text.record "ValidationError" [("message", Text.quoted rule)]

/-- The messages of the causes below the error. -/
def ConfigError.sources : ConfigError → List String
  | .unreadable detail => [detail]
  | .invalid _ => []

/-! ### Wiring -/

/-- A failure to wire components together. -/
inductive DependencyError where
  /-- The dependencies lead around a circle; the chain names its stations. -/
  | circular (chain : String)
  /-- A component could not be registered under its name. -/
  | registration (name reason : String)
  deriving DecidableEq

/-- The message shown to people. -/
def DependencyError.message : DependencyError → String
  | .circular chain => "循环依赖检测到: " ++ chain
  | .registration name reason => "组件注册失败: " ++ name ++ ", 原因: " ++ reason

/-- The error with all its fields. -/
def DependencyError.diagnostic : DependencyError → String
  | .circular chain => Text.record "CircularDependency" [("dependency_chain", Text.quoted chain)]
  | .registration name reason =>
    Text.record "RegistrationError" [("name", Text.quoted name), ("message", Text.quoted reason)]

/-! ### Running -/

/-- A failure of a start or stop pass. -/
inductive LifecycleError where
  /-- A component refused to start. -/
  | startFailed (name reason : String)
  /-- A component refused to start because a start of its own making failed. -/
  | startFailedBy (name : String) (cause : LifecycleError)
  /-- There is no registry to take the components from. -/
  | registryUnavailable (reason : String)
  deriving DecidableEq

/-- The message shown to people. -/
def LifecycleError.message : LifecycleError → String
  | .startFailed name reason => "组件启动失败: '" ++ name ++ "', 原因: " ++ reason
  | .startFailedBy name cause => "组件启动失败: '" ++ name ++ "', 原因: " ++ cause.message
  | .registryUnavailable reason => "组件注册表不可用: " ++ reason

/-- The error with all its fields. -/
def LifecycleError.diagnostic : LifecycleError → String
  | .startFailed name reason =>
    Text.record "StartFailed" [("name", Text.quoted name), ("source", Text.quoted reason)]
  | .startFailedBy name cause =>
    Text.record "StartFailed" [("name", Text.quoted name), ("source", cause.diagnostic)]
  | .registryUnavailable reason =>
    Text.record "RegistryUnavailable" [("message", Text.quoted reason)]

/-- The messages of the causes below the error. -/
def LifecycleError.sources : LifecycleError → List String
  | .startFailed _ reason => [reason]
  | .startFailedBy _ cause => cause.message :: cause.sources
  | .registryUnavailable _ => []

/-- The component at fault, where there is one. -/
def LifecycleError.component? : LifecycleError → Option String
  | .startFailed name _ => some name
  | .startFailedBy name _ => some name
  | .registryUnavailable _ => none

/-! ### The whole container -/

/-- A failure of the container: one of the above, or a failure of its own. -/
inductive InfrastructureError where
  | config (cause : ConfigError)
  | dependency (cause : DependencyError)
  | lifecycle (cause : LifecycleError)
  /-- The surroundings of the container could not be set up. -/
  | bootstrapFailed (reason : String)
  /-- The container was asked for something that its status does not allow. -/
  | invalidState (reason : String)
  deriving DecidableEq

/-- The message shown to people. -/
def InfrastructureError.message : InfrastructureError → String
  | .config cause => "配置错误: " ++ cause.message
  | .dependency cause => "依赖关系错误: " ++ cause.message
  | .lifecycle cause => "生命周期错误: " ++ cause.message
  | .bootstrapFailed reason => "基础设施启动失败: " ++ reason
  | .invalidState reason => "基础设施状态错误: " ++ reason

/-- The error with all its fields. -/
def InfrastructureError.diagnostic : InfrastructureError → String
  | .config cause => Text.record "ConfigError" [("source", cause.diagnostic)]
  | .dependency cause => Text.record "DependencyError" [("source", cause.diagnostic)]
  | .lifecycle cause => Text.record "LifecycleError" [("source", cause.diagnostic)]
  | .bootstrapFailed reason => Text.record "BootstrapFailed" [("message", Text.quoted reason)]
  | .invalidState reason => Text.record "InvalidState" [("message", Text.quoted reason)]

/-- The messages of the causes below the error. -/
def InfrastructureError.sources : InfrastructureError → List String
  | .config cause => cause.message :: cause.sources
  | .dependency cause => [cause.message]
  | .lifecycle cause => cause.message :: cause.sources
  | .bootstrapFailed _ => []
  | .invalidState _ => []

end PhasedLifecycle
