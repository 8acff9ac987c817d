import Crontab.Listener.Registry

/-!
# Executions

One execution of a task: the listeners are told of its start, the task runs, and the listeners
registered by then are told of the outcome.  A panic of the task is an outcome like others; a panic
of a listener ends the execution on the spot.

* `execute` : one execution.
* `executeAll` : executions one after another.
-/

set_option autoImplicit false

namespace Crontab

/-- What a task does when it runs: changes of the registry, and its outcome. -/
structure TaskRun (ι : Type) where
  changes : List (RegistryChange ι)
  outcome : Outcome
deriving DecidableEq, Repr

/-- A run that leaves the registry alone. -/
def TaskRun.ofOutcome {ι : Type} (o : Outcome) : TaskRun ι := ⟨[], o⟩

/-- What can be seen of executions while they go on. -/
inductive Event (ι : Type) where
  | call (c : Call ι)
  | ran (task : TaskId)
deriving DecidableEq, Repr

/-- What executions warn about. -/
inductive Warning where
  | taskFailed (task : TaskId) (error : TaskError)
  | endedAbnormally
deriving DecidableEq, Repr

/-- The wording of a warning. -/
def Warning.text : Warning → String
  | taskFailed task e => "Task execution failed task_id=" ++ task.text ++ " error=" ++ e.message
  | endedAbnormally => "Task executor terminated abnormally"

/-- One or more executions, and what they leave behind. -/
structure Execution (ι σ : Type) where
  events : List (Event ι)
  warnings : List Warning
  registry : Registry ι
  state : σ
deriving DecidableEq, Repr

section

variable {ι σ : Type}

/-- The warning about a round that a listener's panic ended. -/
def panicWarning (panic : Option Payload) : List Warning :=
  match panic with
  | some _ => [.endedAbnormally]
  | none => []

/-- The notice that reports an outcome. -/
def Outcome.notice (o : Outcome) : Notice :=
  match o.error? with
  | none => .succeeded
  | some e => .failed e

/-- The warning about an outcome, if failures are logged. -/
def Outcome.warnings (o : Outcome) (task : TaskId) (logFailures : Bool) : List Warning :=
  match o.error? with
  | none => []
  | some e => if logFailures then [.taskFailed task e] else []

variable [DecidableEq ι]

/-- One execution of a task. -/
def execute (b : Behaviour ι σ) (logFailures : Bool) (task : TaskId) (run : TaskRun ι)
    (registry : Registry ι) (state : σ) : Execution ι σ :=
  let first := notify b task .started registry state
  let begun := first.calls.map Event.call
  match first.panic with
  | some p => ⟨begun, panicWarning (some p), first.registry, first.state⟩
  | none =>
    let second := notify b task run.outcome.notice (first.registry.applyAll run.changes) first.state
    { events := begun ++ .ran task :: second.calls.map Event.call
      warnings := run.outcome.warnings task logFailures ++ panicWarning second.panic
      registry := second.registry
      state := second.state }

/-- Executions one after another. -/
def executeAll (b : Behaviour ι σ) (logFailures : Bool) :
    List (TaskId × TaskRun ι) → Registry ι → σ → Execution ι σ
  | [], registry, state => ⟨[], [], registry, state⟩
  | (task, run) :: rest, registry, state =>
    let first := execute b logFailures task run registry state
    let others := executeAll b logFailures rest first.registry first.state
    { others with
      events := first.events ++ others.events
      warnings := first.warnings ++ others.warnings }

end

end Crontab
