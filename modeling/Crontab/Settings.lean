import Crontab.Config

/-!
# Settings of a scheduler

* `Settings` : the settings with their defaults.
* `Settings.ofConfig` : the settings in the section `scheduler` of a configuration.
-/

set_option autoImplicit false

namespace Crontab

/-- The settings of a scheduler. -/
structure Settings where
  /-- The name of the zone that patterns are evaluated in. -/
  timeZone : String := "local"
  /-- Whether executions still running at a stop are left behind. -/
  daemon : Bool := false
  /-- Whether to tick every second and look at the field for it. -/
  matchSecond : Bool := false
  /-- How many executions may run at once. -/
  maxConcurrentTasks : Option Nat := none
  workerThreads : Option Nat := none
  threadName : String := "cronus-"
  /-- Whether failures of tasks are warned about. -/
  logTaskFailures : Bool := true
deriving DecidableEq, Repr

namespace Settings

/-- The names of the settings, in the order in which a list gives them. -/
def fieldNames : List String :=
  ["time_zone", "daemon", "match_second", "max_concurrent_tasks", "worker_threads",
    "thread_name_prefix", "log_task_failures"]

/-- The value that `read` makes of what was given, or the default. -/
def given {α : Type} (v : Option Value) (read : Value → Except ConfigError α) (default : α) :
    Except ConfigError α :=
  match v with
  | some w => read w
  | none => .ok default

/-- The settings, of which `find` gives the values by name. -/
def ofFields (find : String → Option Value) : Except ConfigError Settings := do
  let none' : Settings := {}
  let timeZone ← given (find "time_zone") Value.text none'.timeZone
  let daemon ← given (find "daemon") Value.switch none'.daemon
  let matchSecond ← given (find "match_second") Value.switch none'.matchSecond
  let maxConcurrentTasks ← given (find "max_concurrent_tasks") Value.count? none'.maxConcurrentTasks
  let workerThreads ← given (find "worker_threads") Value.count? none'.workerThreads
  let threadName ← given (find "thread_name_prefix") Value.text none'.threadName
  let logTaskFailures ← given (find "log_task_failures") Value.switch none'.logTaskFailures
  return { timeZone, daemon, matchSecond, maxConcurrentTasks, workerThreads, threadName,
           logTaskFailures }

/-- The settings of a section: a table gives them by name, a list by position. -/
def ofSection : Value → Except ConfigError Settings
  | .table fields => ofFields fun name => fields.lookup name
  | .array items => ofFields fun name => (fieldNames.zip items).lookup name
  | _ => .error .malformedSection

/-- The settings of a configuration; without a section for them, the defaults. -/
def ofConfig (c : Config) : Except ConfigError Settings :=
  match c.root.field? "scheduler" with
  | some v => ofSection v
  | none => .ok {}

end Settings

end Crontab
