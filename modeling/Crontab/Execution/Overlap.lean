import Crontab.Execution
import Crontab.Steps
import Crontab.Table

/-!
# Executions at the same time

The tasks that are due at a tick are dispatched one after another, and an execution may begin before
the next task is dispatched.  Executions go on side by side and share the registry, the listeners'
world and whatever the log is written to.

* `Stage` : how far an execution has come.
* `Underway.advance` : the next step of an execution.
* `Table.jobs`, `Overlap.ofTick` : the tasks that are due at a tick, none of them dispatched yet.
* `Overlap.step` : the next dispatch, or the next step of one of the executions.

A round of notification takes its listeners from the registry when it begins; between two of its
calls other executions may go on.  A limit on executions at once only rules out some orders.
-/

set_option autoImplicit false

namespace Crontab

/-- How far an execution has come; in a round of notification, with the listeners still to be
told. -/
inductive Stage (ι : Type) where
  | waiting
  | starting (left : List ι)
  | ran
  | reporting (left : List ι)
  | ended
deriving DecidableEq, Repr

/-- An execution that has been dispatched: of which task, what the task does, and how far it has
come. -/
structure Underway (ι : Type) where
  task : TaskId
  run : TaskRun ι
  stage : Stage ι
deriving DecidableEq, Repr

/-- Executions at the same time: the tasks still to be dispatched, the executions in the order in
which they were, and what they share.  The log tells events with the place of their execution. -/
structure Overlap (ι σ : Type) where
  undispatched : List (TaskId × TaskRun ι)
  executions : List (Underway ι)
  registry : Registry ι
  state : σ
  log : List (Nat × Event ι)
  warnings : List Warning
deriving DecidableEq, Repr

/-- A step of executions at the same time: the next task is dispatched, or the execution at a place
goes on. -/
inductive Overlap.Step where
  | dispatch
  | advance (k : Nat)
deriving DecidableEq, Repr

/-- The tasks that are due at a tick, in order of insertion, each with how its execution ends. -/
def Table.jobs {τ ι : Type} (t : Table τ) (zone : Zone) (millis : Int) (matchSecond : Bool)
    (outcome : TaskId → τ → Outcome) : List (TaskId × TaskRun ι) :=
  (t.due zone millis matchSecond).map fun d => (d.1, .ofOutcome (outcome d.1 d.2))

namespace Overlap

variable {ι σ : Type}

/-- Nothing has been dispatched yet. -/
def start (jobs : List (TaskId × TaskRun ι)) (registry : Registry ι) (state : σ) : Overlap ι σ :=
  ⟨jobs, [], registry, state, [], []⟩

/-- The tick at an instant, before any of its tasks is dispatched. -/
def ofTick {τ : Type} (t : Table τ) (zone : Zone) (millis : Int) (matchSecond : Bool)
    (outcome : TaskId → τ → Outcome) (registry : Registry ι) (state : σ) : Overlap ι σ :=
  start (t.jobs zone millis matchSecond outcome) registry state

/-- Whether every task has been dispatched and every execution has ended. -/
def Finished (o : Overlap ι σ) : Prop := o.undispatched = [] ∧ ∀ e ∈ o.executions, e.stage = .ended

/-- What has been seen of the execution at a place, in order. -/
def eventsOf (o : Overlap ι σ) (k : Nat) : List (Event ι) :=
  (o.log.filter fun x => x.1 == k).map (·.2)

/-- The next task is dispatched. -/
def dispatch (o : Overlap ι σ) : Option (Overlap ι σ) :=
  match o.undispatched with
  | [] => none
  | (task, run) :: rest =>
    some { o with
      undispatched := rest
      executions := o.executions ++ [⟨task, run, .waiting⟩] }

/-- The execution at a place has come to another stage and has left something behind. -/
def adopt (o : Overlap ι σ) (k : Nat) (e : Underway ι) (stage : Stage ι) (x : Execution ι σ) :
    Overlap ι σ :=
  { o with
    executions := o.executions.set k { e with stage }
    registry := x.registry
    state := x.state
    log := o.log ++ x.events.map (k, ·)
    warnings := o.warnings ++ x.warnings }

end Overlap

section

variable {ι σ : Type} [DecidableEq ι]

/-- A call of one listener, after which the execution goes on with `next` unless the listener
panics. -/
def tell (b : Behaviour ι σ) (task : TaskId) (notice : Notice) (l : ι) (next : Stage ι)
    (registry : Registry ι) (state : σ) : Stage ι × Execution ι σ :=
  let reaction := b state l task notice
  let stage := match reaction.panic with
    | none => next
    | some _ => .ended
  (stage,
    { events := [.call ⟨l, task, notice⟩]
      warnings := panicWarning reaction.panic
      registry := registry.applyAll reaction.changes
      state := reaction.state })

/-- The next step of an execution: the stage that it comes to, and what the step leaves behind.  An
execution that has ended takes no step. -/
def Underway.advance (b : Behaviour ι σ) (logFailures : Bool) (registry : Registry ι) (state : σ)
    (e : Underway ι) : Option (Stage ι × Execution ι σ) :=
  match e.stage with
  | .waiting => some (.starting registry.listeners, ⟨[], [], registry, state⟩)
  | .starting (l :: left) => some (tell b e.task .started l (.starting left) registry state)
  | .starting [] =>
    some (.ran, ⟨[.ran e.task], [], registry.applyAll e.run.changes, state⟩)
  | .ran =>
    some (.reporting registry.listeners,
      ⟨[], e.run.outcome.warnings e.task logFailures, registry, state⟩)
  | .reporting (l :: left) =>
    some (tell b e.task e.run.outcome.notice l (.reporting left) registry state)
  | .reporting [] => some (.ended, ⟨[], [], registry, state⟩)
  | .ended => none

namespace Overlap

/-- The execution at a place goes on. -/
def advance (b : Behaviour ι σ) (logFailures : Bool) (o : Overlap ι σ) (k : Nat) :
    Option (Overlap ι σ) :=
  match o.executions[k]? with
  | none => none
  | some e => (e.advance b logFailures o.registry o.state).map fun a => o.adopt k e a.1 a.2

/-- The executions after a step, if the step is possible. -/
def step (b : Behaviour ι σ) (logFailures : Bool) (o : Overlap ι σ) : Step → Option (Overlap ι σ)
  | .dispatch => o.dispatch
  | .advance k => o.advance b logFailures k

instance (o : Overlap ι σ) : Decidable o.Finished := inferInstanceAs (Decidable (_ ∧ _))

end Overlap

end

end Crontab
