import Crontab.Permits
import Crontab.Steps
import Crontab.Table.Columns

/-!
# The executor of a timer

Every tick begins a launch.  When its turn comes, the launch looks at the table and dispatches one
job for each task that is due.  A job waits for a permit, is handed over to a thread and leaves it
one way or another.  Whoever may still dispatch or hand over a job holds a sender of one channel;
when no sender is left the executor is drained and can be torn down.  Jobs that wait at that moment
are lost.

* `Job`, `Launch`, `Dispatch` : what is executed, and where it comes from.
* `Executor.start` : the executor of a timer that has just been started.
* `Executor.step` : one step of the loop, of a launch, of a job or of the thread that waits for the
  executor to be drained.
-/

set_option autoImplicit false

namespace Crontab

/-- What is begun by a tick: its number, and the time that the tick hands on. -/
structure Launch where
  tick : Nat
  time : Int
deriving DecidableEq, Repr

/-- One execution of a task: the tick that it is for, and its place among the tasks due then. -/
structure Job where
  tick : Nat
  place : Nat
  task : TaskId
deriving DecidableEq, Repr

/-- What a launch goes by when its turn comes: the table and the zone of that moment, and whether
its timer looks at seconds. -/
structure Dispatch (τ : Type) where
  launch : Launch
  table : Columns τ
  zone : Zone
  matchSecond : Bool
deriving DecidableEq, Repr

/-- The tasks that a launch finds to be due, in order of insertion. -/
def Dispatch.due {τ : Type} (d : Dispatch τ) : List (TaskId × τ) :=
  d.table.due d.zone d.launch.time d.matchSecond

/-- The jobs of a dispatch, one for each task that is due. -/
def Dispatch.jobs {τ : Type} (d : Dispatch τ) : List Job :=
  d.due.mapIdx fun i r => ⟨d.launch.tick, i, r.1⟩

/-- How a job leaves its thread: its outcome has been reported, or a listener's panic has unwound
the thread. -/
inductive Leaving where
  | reported (outcome : Outcome)
  | unwound (panic : Payload)
deriving DecidableEq, Repr

/-- An executor with the loop that begins its launches. -/
structure Executor (τ : Type) where
  limit : Option Nat
  matchSecond : Bool
  /-- The permits that nobody holds; none are counted without a limit. -/
  free : Nat
  /-- The senders that have not been dropped. -/
  senders : Nat
  /-- Whether the loop has not ended; it holds a sender. -/
  ticking : Bool
  fired : List Launch
  /-- The launches whose turn has not come; each holds a sender. -/
  launches : List Launch
  dispatches : List (Dispatch τ)
  /-- The jobs without a permit; each holds a sender. -/
  queued : List Job
  /-- The jobs with a permit that have not been handed over; each holds a sender. -/
  granted : List Job
  /-- The senders of parties that have done their part, which drop them any moment. -/
  parting : Nat
  handedOver : List Job
  running : List Job
  ended : List (Job × Leaving)
  drained : Bool
  lost : List Job
deriving DecidableEq, Repr

/-- A step of one of the parties.  Among several launches or jobs, the number tells whose it is. -/
inductive Executor.Step (τ : Type) where
  /-- The loop ticks. -/
  | tick (time : Int)
  /-- The loop ends. -/
  | endLoop
  /-- A launch finds the table and the zone as they are at that moment. -/
  | launch (k : Nat) (table : Columns τ) (zone : Zone)
  /-- A job takes a permit. -/
  | acquire (k : Nat)
  /-- A job is handed over to a thread. -/
  | handOver (k : Nat)
  /-- A job leaves its thread. -/
  | leave (k : Nat) (how : Leaving)
  /-- A party that has done its part drops its sender. -/
  | release
  /-- No sender is left. -/
  | drain
  /-- What waits is dropped with everything else. -/
  | tearDown

namespace Executor

variable {τ : Type}

/-- The executor of a timer that has just been started. -/
def start (limit : Option Nat) (matchSecond : Bool) : Except LimitError (Executor τ) :=
  match checkLimit limit with
  | .error e => .error e
  | .ok () => .ok {
      limit, matchSecond
      free := (limit.map permits).getD 0
      senders := 1
      ticking := true
      fired := [], launches := [], dispatches := [], queued := [], granted := []
      parting := 0
      handedOver := [], running := [], ended := []
      drained := false
      lost := [] }

/-- The tick gives its launch a sender. -/
def tick (e : Executor τ) (time : Int) : Option (Executor τ) :=
  if e.ticking then
    let l : Launch := ⟨e.fired.length, time⟩
    some { e with
      fired := e.fired ++ [l]
      launches := e.launches ++ [l]
      senders := e.senders + 1 }
  else none

def endLoop (e : Executor τ) : Option (Executor τ) :=
  if e.ticking then some { e with ticking := false, parting := e.parting + 1 } else none

/-- The launch gives every job that it dispatches a sender. -/
def launch (e : Executor τ) (k : Nat) (table : Columns τ) (zone : Zone) : Option (Executor τ) :=
  e.launches[k]?.map fun l =>
    let d : Dispatch τ := ⟨l, table, zone, e.matchSecond⟩
    { e with
      launches := e.launches.eraseIdx k
      dispatches := e.dispatches ++ [d]
      queued := e.queued ++ d.jobs
      senders := e.senders + d.jobs.length
      parting := e.parting + 1 }

/-- The free permits after one is taken; without a limit none is needed. -/
def takePermit (e : Executor τ) : Option Nat :=
  if e.limit.isNone then some e.free
  else if e.free = 0 then none
  else some (e.free - 1)

def acquire (e : Executor τ) (k : Nat) : Option (Executor τ) := do
  let j ← e.queued[k]?
  let free ← e.takePermit
  return { e with free, queued := e.queued.eraseIdx k, granted := e.granted ++ [j] }

def handOver (e : Executor τ) (k : Nat) : Option (Executor τ) :=
  e.granted[k]?.map fun j =>
    { e with
      granted := e.granted.eraseIdx k
      handedOver := e.handedOver ++ [j]
      running := e.running ++ [j]
      parting := e.parting + 1 }

/-- The permit is the thread's own and comes back however the thread is left. -/
def leave (e : Executor τ) (k : Nat) (how : Leaving) : Option (Executor τ) :=
  e.running[k]?.map fun j =>
    { e with
      running := e.running.eraseIdx k
      ended := e.ended ++ [(j, how)]
      free := if e.limit.isNone then e.free else e.free + 1 }

def release (e : Executor τ) : Option (Executor τ) :=
  if e.parting = 0 then none
  else some { e with parting := e.parting - 1, senders := e.senders - 1 }

def drain (e : Executor τ) : Option (Executor τ) :=
  if e.senders = 0 then some { e with drained := true } else none

def tearDown (e : Executor τ) : Option (Executor τ) :=
  if e.drained then
    some { e with lost := e.lost ++ (e.queued ++ e.granted), queued := [], granted := [] }
  else none

/-- The executor after a step, if the step is possible. -/
def step (e : Executor τ) : Step τ → Option (Executor τ)
  | .tick time => e.tick time
  | .endLoop => e.endLoop
  | .launch k table zone => e.launch k table zone
  | .acquire k => e.acquire k
  | .handOver k => e.handOver k
  | .leave k how => e.leave k how
  | .release => e.release
  | .drain => e.drain
  | .tearDown => e.tearDown

end Executor

end Crontab
