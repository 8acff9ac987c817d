import Crontab.Listener.Registry
import Crontab.Permits
import Crontab.Settings
import Crontab.Table.Columns
import Crontab.Tick.Boundary

/-!
# Schedulers

A scheduler holds a task table, listeners, a zone and a timer that runs while it is started.

* `Command` : what callers can tell a scheduler to do.
* `Scheduler.start`, `Scheduler.stop` : the life cycle.
* `Scheduler.perform` : an attempt at a command.
* `Scheduler.due` : the tasks due at an instant under the current zone and mode.
-/

set_option autoImplicit false

namespace Crontab

/-- Why a command is refused. -/
inductive SchedulerError where
  | invalidPattern (error : InvalidPattern)
  | invalidTimeZone (error : InvalidTimeZone)
  | table (error : TableError)
  | config (error : ConfigError)
  | alreadyStarted
  | notStarted
  | limit (error : LimitError)
  /-- The name of a thread holds the character that ends names. -/
  | nulInThreadName (name : String)
deriving DecidableEq, Repr

/-- What is wrong with a thread's name: the octets of the name, and where the first zero is. -/
def nulMessage (name : String) : String :=
  let octets := name.toList.flatMap String.utf8EncodeChar
  let place := (octets.takeWhile (· ≠ 0)).length
  "thread name may not contain interior null bytes: NulError(" ++ toString place ++ ", [" ++
    ", ".intercalate (octets.map fun b => toString b.toNat) ++ "])"

/-- The wording of a refusal. -/
def SchedulerError.message? : SchedulerError → Option String
  | invalidPattern e => some e.message
  | invalidTimeZone e => some e.message
  | table e => some e.message
  | config e => e.message?
  | alreadyStarted => some "Scheduler already started"
  | notStarted => some "Scheduler not started"
  | limit e => some e.message
  | nulInThreadName name => some (nulMessage name)

/-- How executions are run; fixed when a scheduler is made. -/
structure ExecutionOptions where
  limit : Option Nat
  workerThreads : Option Nat
  threadName : String
  logFailures : Bool
deriving DecidableEq, Repr

/-- The options in settings; no threads at all means as many as there are by default. -/
def ExecutionOptions.ofSettings (s : Settings) : ExecutionOptions where
  limit := s.maxConcurrentTasks
  workerThreads := s.workerThreads.filter (0 < ·)
  threadName := s.threadName
  logFailures := s.logTaskFailures

/-- The name of the threads that run executions. -/
def ExecutionOptions.workerName (o : ExecutionOptions) : String := o.threadName ++ "worker"

/-- A running timer: its unit, and whether its ticks look at seconds. -/
structure Timer where
  unit : Int
  matchSecond : Bool
deriving DecidableEq, Repr

/-- The timer of a mode. -/
def Timer.ofMode (matchSecond : Bool) : Timer :=
  ⟨if matchSecond then Tick.secondUnit else Tick.minuteUnit, matchSecond⟩

/-- A scheduler. -/
structure Scheduler (τ ι : Type) where
  table : Columns τ
  listeners : Registry ι
  zone : Zone
  options : ExecutionOptions
  daemon : Bool
  matchSecond : Bool
  timer : Option Timer
  /-- How many ids have been generated. -/
  generated : Nat
deriving DecidableEq, Repr

/-- What callers can tell a scheduler to do. -/
inductive Command (τ ι : Type) where
  | schedule (pattern : String) (task : τ)
  | scheduleWithId (id : TaskId) (pattern : String) (task : τ)
  | schedulePattern (id : TaskId) (pattern : Pattern) (task : τ)
  | deschedule (id : TaskId)
  | updatePattern (id : TaskId) (pattern : String)
  | clear
  | setTimeZone (zone : Zone)
  | setDaemon (value : Bool)
  | setMatchSecond (value : Bool)
  | addListener (l : ι)
  | removeListener (l : ι)
  | start
  | stop
  | stopAndClear
deriving DecidableEq, Repr

/-- The answer to a command that is not refused. -/
inductive Reply where
  | done
  /-- The task is scheduled under a generated id. -/
  | scheduled (id : TaskId)
  /-- Whether the listener was registered. -/
  | removed (found : Bool)
deriving DecidableEq, Repr

namespace Scheduler

variable {τ ι : Type}

/-- A stopped scheduler without tasks and listeners. -/
def ofParts (s : Settings) (zone : Zone) : Scheduler τ ι where
  table := Columns.empty
  listeners := Registry.empty
  zone := zone
  options := ExecutionOptions.ofSettings s
  daemon := s.daemon
  matchSecond := s.matchSecond
  timer := none
  generated := 0

/-- The scheduler with default settings, in the machine's zone. -/
def new (machine : Offsets) : Scheduler τ ι := ofParts {} (.localTime machine)

/-- The scheduler of some settings, whose zone must exist. -/
def ofSettings (zones : TimeZones) (s : Settings) : Except SchedulerError (Scheduler τ ι) :=
  match Zone.parse zones s.timeZone with
  | .error e => .error (.invalidTimeZone e)
  | .ok zone => .ok (ofParts s zone)

/-- Whether the timer runs. -/
def isStarted (s : Scheduler τ ι) : Bool := s.timer.isSome

/-- The id that a text means: an id generated before, or the text itself. -/
def idOfText (s : Scheduler τ ι) (text : String) : TaskId :=
  match (List.range' 1 s.generated).find? fun n => (TaskId.generated n).text == text with
  | some n => .generated n
  | none => .named text

/-! ## The task table -/

/-- A change of the task table. -/
def onTable (change : Attempt TableError (Columns τ) Unit) :
    Attempt SchedulerError (Scheduler τ ι) Unit := do
  let s ← get
  set { s with table := change.after s.table }
  match change.result s.table with
  | .ok () => return
  | .error e => throw (.table e)

/-- The pattern of a text. -/
def parsed (text : String) : Attempt SchedulerError (Scheduler τ ι) Pattern :=
  match Pattern.parse text with
  | .ok p => pure p
  | .error e => throw (.invalidPattern e)

/-- Schedules a task under an id and a pattern given as text. -/
def scheduleWithId (id : TaskId) (text : String) (task : τ) :
    Attempt SchedulerError (Scheduler τ ι) Unit := do
  let p ← parsed text
  onTable (Columns.add id p task)

/-- Schedules a task under a generated id. -/
def schedule (text : String) (task : τ) : Attempt SchedulerError (Scheduler τ ι) TaskId := do
  let id := TaskId.generated ((← get).generated + 1)
  scheduleWithId id text task
  modify fun s => { s with generated := s.generated + 1 }
  return id

/-- Gives the task of an id the pattern of a text. -/
def updatePattern (id : TaskId) (text : String) :
    Attempt SchedulerError (Scheduler τ ι) Unit := do
  let p ← parsed text
  onTable (Columns.updatePattern id p)

/-! ## The life cycle -/

/-- Refuses what may not be done while the timer runs. -/
def refuseWhenStarted : Attempt SchedulerError (Scheduler τ ι) Unit := do
  if (← get).isStarted then throw .alreadyStarted

/-- Changes a setting that is fixed while the timer runs. -/
def changeSetting (change : Scheduler τ ι → Scheduler τ ι) :
    Attempt SchedulerError (Scheduler τ ι) Unit := do
  refuseWhenStarted
  modify change

/-- Refuses options with which no timer can be started. -/
def checkOptions (o : ExecutionOptions) : Except SchedulerError Unit :=
  if o.workerName.toList.contains '\x00' then .error (.nulInThreadName o.workerName)
  else match checkLimit o.limit with
    | .error e => .error (.limit e)
    | .ok () => .ok ()

/-- Starts the timer of the mode. -/
def start : Attempt SchedulerError (Scheduler τ ι) Unit := do
  refuseWhenStarted
  match checkOptions (← get).options with
  | .error e => throw e
  | .ok () => modify fun s => { s with timer := some (Timer.ofMode s.matchSecond) }

/-- Takes the timer away. -/
def stop : Attempt SchedulerError (Scheduler τ ι) Unit := do
  let timer := (← get).timer
  modify fun s => { s with timer := none }
  if timer.isNone then throw .notStarted

/-- Takes a listener out, and tells whether there was one to take out. -/
def removeListener [DecidableEq ι] (l : ι) : Attempt SchedulerError (Scheduler τ ι) Bool := do
  let before := (← get).listeners.size
  modify fun s => { s with listeners := s.listeners.remove l }
  return (← get).listeners.size != before

/-- An attempt at a command. -/
def perform [DecidableEq ι] : Command τ ι → Attempt SchedulerError (Scheduler τ ι) Reply
  | .schedule text task => do return .scheduled (← schedule text task)
  | .scheduleWithId id text task => do
    scheduleWithId id text task
    return .done
  | .schedulePattern id p task => do
    onTable (Columns.add id p task)
    return .done
  | .deschedule id => do
    onTable (Columns.remove id)
    return .done
  | .updatePattern id text => do
    updatePattern id text
    return .done
  | .clear => do
    onTable Columns.clear
    return .done
  | .setTimeZone zone => do
    modify fun s => { s with zone }
    return .done
  | .setDaemon value => do
    changeSetting fun s => { s with daemon := value }
    return .done
  | .setMatchSecond value => do
    changeSetting fun s => { s with matchSecond := value }
    return .done
  | .addListener l => do
    modify fun s => { s with listeners := s.listeners.add l }
    return .done
  | .removeListener l => do return .removed (← removeListener l)
  | .start => do
    start
    return .done
  | .stop => do
    stop
    return .done
  | .stopAndClear => do
    stop
    onTable Columns.clear
    return .done

/-- The tasks due at an instant. -/
def due (s : Scheduler τ ι) (millis : Int) : List (TaskId × τ) :=
  s.table.due s.zone millis s.matchSecond

end Scheduler

end Crontab
