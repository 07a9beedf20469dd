/-
This file lists everything the library reports while it works. A notice is a fact with its data;
its severity, the area it comes from and its wording follow from the fact. Notices are returned in
the order in which they arise; writing them anywhere is the business of a log.
-/

import PhasedLifecycle.Error

namespace PhasedLifecycle

/-! ### Severities -/

/-- How much a notice matters. -/
inductive Severity where
  | trace
  | debug
  | info
  | warn
  | error
  deriving DecidableEq

/-- The severities in ascending order. -/
def Severity.rank : Severity → Nat
  | .trace => 0
  | .debug => 1
  | .info => 2
  | .warn => 3
  | .error => 4

/-- All severities. -/
def Severity.all : List Severity :=
  [.trace, .debug, .info, .warn, .error]

/-- The name of the severity. -/
def Severity.label : Severity → String
  | .trace => "TRACE"
  | .debug => "DEBUG"
  | .info => "INFO"
  | .warn => "WARN"
  | .error => "ERROR"

/-! ### The facts -/

/-- A fact worth reporting. -/
inductive Notice where
  -- the registry
  | registered (name kind : String)
  | unregistered (name : String)
  | dependencyRecorded (dependent dependency : String)
  | cycleFound (chain : String)
  -- passes
  | refreshPass
  | closePass
  | phaseOpened (phase : Int) (size : Nat)
  | phaseStarting (phase : Int)
  | phaseStopping (phase : Int)
  | starting (name kind : String)
  | started (name : String)
  | stopRequested (name kind : String)
  | stopping (name kind : String)
  | stopped (name : String)
  | stopFailed (name reason : String)
  | signalDropped (name : String)
  | phaseTimedOut (phase : Int) (timeout : Nat) (pending : List String)
  -- the container
  | refreshing
  | refreshed (running elapsed : Nat)
  | refreshFailed (error : LifecycleError)
  | closing
  | closeFailed (error : LifecycleError)
  | closedUncleanly (failures timeouts : Nat)
  | closed
  -- building a container
  | componentAdded (name : String)
  | building
  | checkingCycles
  | built (components timeout : Nat)
  | loggingReady
  -- settings
  | sourceAdded (path : String)
  | sourcesUnreadable (detail : String)
  | sectionMissing (table : String)
  | sectionUnreadable (table detail : String)
  | settingsBound (timeout : Nat)
  -- the application
  | application (severity : Severity) (text : String)
  deriving DecidableEq

namespace Notice

/-- How much the notice matters. -/
def severity : Notice → Severity
  | .starting .. | .stopRequested .. | .stopping .. => .trace
  | .unregistered .. | .dependencyRecorded .. | .phaseOpened .. | .phaseStarting ..
  | .phaseStopping .. | .started .. | .stopped .. | .componentAdded .. | .checkingCycles
  | .sourceAdded .. | .sectionMissing .. | .settingsBound .. => .debug
  | .registered .. | .refreshPass | .closePass | .phaseTimedOut .. | .refreshing | .refreshed ..
  | .closing | .closed | .building | .built .. | .loggingReady => .info
  | .cycleFound .. | .stopFailed .. | .signalDropped .. | .closedUncleanly .. => .warn
  | .refreshFailed .. | .closeFailed .. | .sourcesUnreadable .. | .sectionUnreadable .. => .error
  | .application severity _ => severity

/-- The area the notice comes from, as log filters name it. -/
def area : Notice → String
  | .registered .. | .unregistered .. | .dependencyRecorded .. => "di_impl::registry"
  | .cycleFound .. => "di_abstractions::registry"
  | .refreshPass | .closePass | .phaseOpened .. => "di_impl::processor"
  | .phaseStarting .. | .phaseStopping .. | .starting .. | .started .. | .stopRequested ..
  | .stopping .. | .stopped .. | .stopFailed .. | .signalDropped .. | .phaseTimedOut .. =>
    "di_impl::group"
  | .refreshing | .refreshed .. | .refreshFailed .. | .closing | .closeFailed ..
  | .closedUncleanly .. | .closed => "infrastructure_composition::container"
  | .componentAdded .. | .building | .checkingCycles | .built .. | .loggingReady =>
    "infrastructure_composition::builder"
  | .sourceAdded .. | .sourcesUnreadable .. | .sectionMissing .. | .sectionUnreadable ..
  | .settingsBound .. => "config_impl::binder"
  | .application .. => "example_app"

/-- The wording of the notice. -/
def message : Notice → String
  | .registered name kind => "注册生命周期组件: " ++ name ++ " (" ++ kind ++ ")"
  | .unregistered name => "注销生命周期组件: " ++ name
  | .dependencyRecorded dependent dependency =>
    "记录依赖关系: " ++ dependent ++ " -> " ++ dependency
  | .cycleFound chain => "检测到循环依赖: " ++ chain
  | .refreshPass => "容器刷新完成，启动自动启动的生命周期组件"
  | .closePass => "容器关闭，停止生命周期组件"
  | .phaseOpened phase size => "阶段 " ++ toString phase ++ " 包含 " ++ toString size ++ " 个组件"
  | .phaseStarting phase => "启动阶段 " ++ toString phase ++ " 的组件"
  | .phaseStopping phase => "停止阶段 " ++ toString phase ++ " 的组件"
  | .starting name kind => "启动组件 '" ++ name ++ "' [" ++ kind ++ "]"
  | .started name => "成功启动组件 '" ++ name ++ "'"
  | .stopRequested name kind => "请求组件 '" ++ name ++ "' [" ++ kind ++ "] 停止"
  | .stopping name kind => "停止组件 '" ++ name ++ "' [" ++ kind ++ "]"
  | .stopped name => "成功停止组件 '" ++ name ++ "'"
  | .stopFailed name reason => "停止组件 '" ++ name ++ "' 失败: " ++ reason
  | .signalDropped name => "组件 '" ++ name ++ "' 未报告停止完成就丢弃了停止信号"
  | .phaseTimedOut phase timeout pending =>
    "阶段 " ++ toString phase ++ " 有 " ++ toString pending.length ++ " 个组件未能在 " ++
      toString timeout ++ "ms 超时内停止: " ++ Text.quotedListing pending
  | .refreshing => "刷新生命周期容器"
  | .refreshed running elapsed =>
    "生命周期容器刷新完成，" ++ toString running ++ " 个组件运行中，耗时 " ++ toString elapsed ++ "ms"
  | .refreshFailed error => "生命周期容器刷新失败: " ++ error.message
  | .closing => "关闭生命周期容器"
  | .closeFailed error => "生命周期容器关闭失败: " ++ error.message
  | .closedUncleanly failures timeouts =>
    "生命周期容器关闭时有 " ++ toString failures ++ " 个组件停止失败，" ++ toString timeouts ++ " 个阶段超时"
  | .closed => "生命周期容器关闭完成"
  | .componentAdded name => "添加生命周期组件: " ++ name
  | .building => "开始构建生命周期容器"
  | .checkingCycles => "检测循环依赖"
  | .built components timeout =>
    "生命周期容器构建完成: " ++ toString components ++ " 个组件，停止阶段超时 " ++ toString timeout ++ "ms"
  | .loggingReady => "日志系统初始化完成"
  | .sourceAdded path => "添加配置文件来源: " ++ path
  | .sourcesUnreadable detail => "配置构建失败: " ++ detail
  | .sectionMissing name => "未找到配置节 '" ++ name ++ "'，使用默认值"
  | .sectionUnreadable name detail => "配置绑定失败: path=" ++ name ++ ", error=" ++ detail
  | .settingsBound timeout =>
    "生命周期配置绑定成功: timeout_per_shutdown_phase_ms=" ++ toString timeout
  | .application _ text => text

end Notice

end PhasedLifecycle
