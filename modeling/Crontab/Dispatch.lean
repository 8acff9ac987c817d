import Crontab.Execution
import Crontab.Table

/-!
# Dispatching a tick

A tick executes every task that is due, once, in order of insertion.

* `Table.dispatch` : the executions of a tick, one after another.
-/

set_option autoImplicit false

namespace Crontab

variable {τ ι σ : Type} [DecidableEq ι]

/-- The executions of the tick at an instant, each of which ends before the next one begins.  `run`
says what a task does. -/
def Table.dispatch (t : Table τ) (zone : Zone) (millis : Int) (matchSecond : Bool)
    (b : Behaviour ι σ) (run : τ → TaskRun ι) (logFailures : Bool) (registry : Registry ι)
    (state : σ) : Execution ι σ :=
  executeAll b logFailures ((t.due zone millis matchSecond).map fun d => (d.1, run d.2))
    registry state

end Crontab
