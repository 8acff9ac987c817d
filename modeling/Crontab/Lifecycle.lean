import Crontab.Scheduler
import Crontab.Steps
import Crontab.Tick.Loop

/-!
# Schedulers with several callers

Callers on any thread, tasks among them, start and stop one scheduler.  Starting is one step.  A
stop takes the timer away, then signals its loop, and returns when the loop has ended; between these
steps others go on.  Every tick of a loop begins a launch, which looks at the scheduler when its
turn comes.

* `Lifecycle` : a scheduler with its live loops, the stops under way and the launches in flight.
* `Lifecycle.step` : one step of a caller, of a loop or of a launch.
-/

set_option autoImplicit false

namespace Crontab

/-- A loop that has not ended: its number, the timer that it runs for and the clock that it
reads. -/
structure LiveLoop where
  serial : Nat
  timer : Timer
  clock : Tick.Clock
  state : Tick.LoopState

/-- A loop to which the signal has come. -/
def LiveLoop.signalled (l : LiveLoop) : LiveLoop :=
  { l with state := { l.state with receiver := .signalled } }

/-- A tick of a loop, and the time that it hands on. -/
structure LoopTick where
  serial : Nat
  timer : Timer
  time : Int
deriving DecidableEq, Repr

/-- A stop that has taken a timer and not returned: the number of its loop, and whether it has sent
the signal. -/
structure StopCall where
  serial : Nat
  signalled : Bool
deriving DecidableEq, Repr

/-- A scheduler with what goes on around it. -/
structure Lifecycle (τ ι : Type) where
  scheduler : Scheduler τ ι
  /-- The number of the loop whose timer the scheduler holds. -/
  held : Option Nat
  loops : List LiveLoop
  stops : List StopCall
  /-- How many loops there have been. -/
  begun : Nat
  ticks : List LoopTick
  launches : List LoopTick
  dispatched : List (LoopTick × List TaskId)

/-- A step of a caller, a loop or a launch.  Among several, the number tells whose it is. -/
inductive Lifecycle.Step (τ ι : Type) where
  /-- A caller does something that neither starts nor stops the timer. -/
  | call (c : Command τ ι)
  /-- A caller starts the scheduler, and the loop reads a clock. -/
  | start (clock : Tick.Clock)
  /-- A caller of stop takes the timer away. -/
  | take
  /-- A stop sends the signal. -/
  | signal (k : Nat)
  /-- A stop returns. -/
  | stopReturns (k : Nat)
  /-- A loop takes a turn. -/
  | turn (k : Nat)
  /-- A launch looks at the scheduler. -/
  | launch (k : Nat)

/-- Whether a command starts or stops the timer. -/
def Command.isLifecycle {τ ι : Type} : Command τ ι → Bool
  | .start | .stop | .stopAndClear => true
  | _ => false

namespace Lifecycle

variable {τ ι : Type}

/-- A scheduler that has just been made. -/
def ofScheduler (s : Scheduler τ ι) : Lifecycle τ ι := ⟨s, none, [], [], 0, [], [], []⟩

/-- A refused start leaves no loop behind. -/
def start (s : Lifecycle τ ι) (clock : Tick.Clock) : Lifecycle τ ι :=
  let scheduler := Scheduler.start.after s.scheduler
  match Scheduler.start.result s.scheduler, scheduler.timer with
  | .ok (), some timer =>
    { s with
      scheduler
      held := some s.begun
      loops := s.loops ++ [⟨s.begun, timer, clock, ⟨clock 0, 1, .waiting⟩⟩]
      begun := s.begun + 1 }
  | _, _ => { s with scheduler }

/-- A refused stop has no loop to wait for. -/
def take (s : Lifecycle τ ι) : Lifecycle τ ι :=
  let scheduler := Scheduler.stop.after s.scheduler
  match Scheduler.stop.result s.scheduler, s.held with
  | .ok (), some serial =>
    { s with scheduler, held := none, stops := s.stops ++ [⟨serial, false⟩] }
  | _, _ => { s with scheduler }

def signal (s : Lifecycle τ ι) (k : Nat) : Option (Lifecycle τ ι) := do
  let call ← s.stops[k]?
  if call.signalled then none
  else some { s with
    stops := s.stops.set k { call with signalled := true }
    loops := s.loops.map fun l => if l.serial = call.serial then l.signalled else l }

/-- A stop returns when it has sent the signal and the loop has ended. -/
def stopReturns (s : Lifecycle τ ι) (k : Nat) : Option (Lifecycle τ ι) := do
  let call ← s.stops[k]?
  if call.signalled && s.loops.all (·.serial ≠ call.serial) then
    some { s with stops := s.stops.eraseIdx k }
  else none

def turn (s : Lifecycle τ ι) (k : Nat) : Option (Lifecycle τ ι) := do
  let l ← s.loops[k]?
  match Tick.turn l.timer.unit l.clock l.state with
  | .tick firing _ next =>
    let t : LoopTick := ⟨l.serial, l.timer, firing.time⟩
    some { s with
      loops := s.loops.set k { l with state := next }
      ticks := s.ticks ++ [t]
      launches := s.launches ++ [t] }
  | .stop _ _ | .fail _ _ => some { s with loops := s.loops.eraseIdx k }

def launch (s : Lifecycle τ ι) (k : Nat) : Option (Lifecycle τ ι) := do
  let t ← s.launches[k]?
  let due := s.scheduler.table.due s.scheduler.zone t.time t.timer.matchSecond
  return { s with
    launches := s.launches.eraseIdx k
    dispatched := s.dispatched ++ [(t, due.map (·.1))] }

variable [DecidableEq ι]

/-- The state after a step, if the step is possible. -/
def step (s : Lifecycle τ ι) : Step τ ι → Option (Lifecycle τ ι)
  | .call c =>
    if c.isLifecycle then none
    else some { s with scheduler := (Scheduler.perform c).after s.scheduler }
  | .start clock => some (s.start clock)
  | .take => some s.take
  | .signal k => s.signal k
  | .stopReturns k => s.stopReturns k
  | .turn k => s.turn k
  | .launch k => s.launch k

end Lifecycle

end Crontab
