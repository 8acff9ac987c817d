import Crontab.Tick.Boundary

/-!
# The tick loop

A timer sleeps from one boundary to the next and ticks when it wakes up.  When the clock turns out
to have jumped, it ticks at once and realigns itself on the clock.  It ends on a shutdown signal.

* `turn` : one turn of the loop, which takes two readings of the clock unless the loop ends.
* `run` : the ticks, clock readings and jumps of at most a number of turns.
* `runScript` : the whole run on a clock that reads a script and then stands still.
-/

set_option autoImplicit false

namespace Crontab.Tick

/-- A clock, as the sequence of its readings. -/
abbrev Clock := Nat → Int

/-- The clock that reads a script; its last entry is read for ever. -/
def Clock.ofScript (script : List Int) : Clock := fun n =>
  script.getD n (script.getLastD 0)

/-- The receiving end of the channel on which a loop is told to end. -/
inductive Receiver where
  /-- Nothing has come yet. -/
  | waiting
  /-- The signal has come. -/
  | signalled
  /-- The sender is gone, and this has not been looked at. -/
  | abandoned
  /-- The sender is gone and this was looked at; waiting on such an end is a fault. -/
  | finished
deriving DecidableEq, Repr

/-- The receiving end after a look at it that does not wait. -/
def Receiver.look : Receiver → Receiver
  | abandoned => finished
  | r => r

/-- A tick that has fired: the time handed on, and how long the loop slept for it. -/
structure Firing where
  time : Int
  slept : Int
deriving DecidableEq, Repr

/-- What a loop knows between two turns. -/
structure LoopState where
  previous : Int
  reads : Nat
  receiver : Receiver
deriving DecidableEq, Repr

/-- How a turn goes: a tick, which came of a jump if `jump` names the sleep that was refused; or the
end of the loop. -/
inductive Turn where
  | tick (t : Firing) (jump : Option Int) (next : LoopState)
  | stop (jump : Option Int) (reads : Nat)
  | fail (fault : Fault) (reads : Nat)
deriving DecidableEq, Repr

/-- One turn.  The boundary to sleep for is that after the previous tick, and a tick that woke up
early still counts for its boundary. -/
def turn (unit : Int) (clock : Clock) (s : LoopState) : Turn :=
  let next := nextBoundary s.previous unit
  let sleep := next - clock s.reads
  let reading := clock (s.reads + 1)
  if validSleep sleep unit then
    match s.receiver with
    | .waiting => .tick ⟨max reading next, sleep⟩ none ⟨max reading next, s.reads + 2, .waiting⟩
    | .signalled | .abandoned => .stop none (s.reads + 1)
    | .finished => .fail .awaitedTwice (s.reads + 1)
  else
    match s.receiver with
    | .signalled => .stop (some sleep) (s.reads + 1)
    | r => .tick ⟨reading, 0⟩ (some sleep) ⟨reading, s.reads + 2, r.look⟩

/-- How a run ended. -/
inductive Ending where
  | running
  | stopped
  | failed (fault : Fault)
deriving DecidableEq, Repr

/-- What can be seen of a run. -/
structure Run where
  ticks : List Firing
  jumps : List Int
  reads : Nat
  ending : Ending
deriving DecidableEq, Repr

/-- A run with a turn in front of it. -/
def Run.cons (t : Firing) (jump : Option Int) (r : Run) : Run :=
  { r with ticks := t :: r.ticks, jumps := jump.toList ++ r.jumps }

/-- What happens to the sender right after tick number `after`, or before the loop if that is
zero: it sends the signal or goes away without. -/
structure Shutdown where
  after : Nat
  sent : Bool
deriving DecidableEq, Repr

/-- The receiving end after tick number `n`. -/
def Shutdown.apply (e : Shutdown) (n : Nat) (r : Receiver) : Receiver :=
  if n = e.after then (if e.sent then .signalled else .abandoned) else r

/-- At most `turns` turns, of which the first comes after `n` ticks. -/
def run (unit : Int) (clock : Clock) (e : Shutdown) : (turns n : Nat) → LoopState → Run
  | 0, _, s => ⟨[], [], s.reads, .running⟩
  | turns + 1, n, s =>
    match turn unit clock s with
    | .stop jump reads => ⟨[], jump.toList, reads, .stopped⟩
    | .fail fault reads => ⟨[], [], reads, .failed fault⟩
    | .tick t jump next =>
      (run unit clock e turns (n + 1)
        { next with receiver := e.apply (n + 1) next.receiver }).cons t jump

/-- The state in which a loop begins: it has read the clock once. -/
def start (clock : Clock) (e : Shutdown) : LoopState := ⟨clock 0, 1, e.apply 0 .waiting⟩

/-- The whole run on a script.  Once the script is used up the clock stands still, so one jump is
the last, and a loop without a sender ends at the turn after it. -/
def runScript (unit : Int) (script : List Int) (e : Shutdown) : Run :=
  let clock := Clock.ofScript script
  if unit = 0 then ⟨[], [], 1, .failed .zeroUnit⟩
  else run unit clock e (e.after + script.length + 3) 0 (start clock e)

/-- The warning about a jump of the clock. -/
def jumpWarning (sleep : Int) : String :=
  "Clock jump detected, ticking immediately sleep_millis=" ++ toString sleep

end Crontab.Tick
