import Crontab.Config.Placeholder
import Crontab.Scheduler
import Crontab.Text.Quoted

/-!
# Building schedulers

A builder collects options, falls back on the settings of a configuration, and may add the
functions that were marked as scheduled.

* `Builder.call` : a builder with one more option; the last call on an option counts, and listeners
  add up.
* `Builder.resolveSettings`, `Builder.resolveZone` : which settings and zone hold.
* `Builder.register` : the marked functions put into the table, in order, or the first error.
* `Builder.buildWith`, `Builder.build` : the scheduler, or the first error, with the warnings given
  on the way; texts are looked up anywhere, or in the builder's configuration.
-/

set_option autoImplicit false

namespace Crontab

open Text

/-- A function marked as scheduled; its texts may be placeholders. -/
structure Registration (τ : Type) where
  id : String
  pattern : String
  enabled : String
  handler : τ
deriving DecidableEq, Repr

/-- The options of a scheduler to be built. -/
structure Builder (τ ι : Type) where
  config : Config
  settings : Option Settings := none
  timeZone : Option Zone := none
  daemon : Option Bool := none
  matchSecond : Option Bool := none
  maxConcurrentTasks : Option Nat := none
  listeners : List ι := []
  /-- The marked functions, if they are to be added. -/
  discovered : Option (List (Registration τ)) := none

/-- A call that gives a builder an option. -/
inductive BuilderCall (ι : Type) where
  | settings (s : Settings)
  | timeZone (zone : Zone)
  | daemon (value : Bool)
  | matchSecond (value : Bool)
  | maxConcurrentTasks (limit : Nat)
  | listener (l : ι)
deriving DecidableEq, Repr

/-- What building warns about. -/
inductive BuildWarning where
  | invalidPattern (id : String) (error : InvalidPattern)
  | ignoredEnvironment
deriving DecidableEq, Repr

/-- The wording of a warning. -/
def BuildWarning.text : BuildWarning → String
  | invalidPattern id e =>
    "Invalid pattern for discovered task task_id=" ++ quoted id ++ " error=" ++ e.message
  | ignoredEnvironment => "Ignoring unreadable environment config"

namespace Builder

variable {τ ι : Type}

/-- A builder without options. -/
def ofConfig (config : Config) : Builder τ ι := { config }

/-- A builder on the environment alone; one that cannot be read is ignored with a warning. -/
def ofEnvironment (environment : List Variable) : Builder τ ι × List BuildWarning :=
  match Config.empty.withEnvironment environment with
  | .ok config => (ofConfig config, [])
  | .error _ => (ofConfig Config.empty, [.ignoredEnvironment])

/-- The builder after a call. -/
def call (b : Builder τ ι) : BuilderCall ι → Builder τ ι
  | .settings s => { b with settings := some s }
  | .timeZone zone => { b with timeZone := some zone }
  | .daemon value => { b with daemon := some value }
  | .matchSecond value => { b with matchSecond := some value }
  | .maxConcurrentTasks limit => { b with maxConcurrentTasks := some limit }
  | .listener l => { b with listeners := b.listeners ++ [l] }

/-- The builder after calls in order. -/
def callAll (b : Builder τ ι) (calls : List (BuilderCall ι)) : Builder τ ι := calls.foldl call b

/-- The settings given, or else the configuration's. -/
def baseSettings (b : Builder τ ι) : Except ConfigError Settings :=
  match b.settings with
  | some s => .ok s
  | none => Settings.ofConfig b.config

/-- The settings that hold: explicit options on top of the settings. -/
def resolveSettings (b : Builder τ ι) : Except ConfigError Settings :=
  match b.baseSettings with
  | .error e => .error e
  | .ok s =>
    .ok { s with
      daemon := b.daemon.getD s.daemon
      matchSecond := b.matchSecond.getD s.matchSecond
      maxConcurrentTasks := b.maxConcurrentTasks.or s.maxConcurrentTasks }

/-- The zone that holds: the one given, or that of the settings. -/
def resolveZone (b : Builder τ ι) (zones : TimeZones) (s : Settings) :
    Except InvalidTimeZone Zone :=
  match b.timeZone with
  | some z => .ok z
  | none => Zone.parse zones s.timeZone

/-- The table with one marked function added, unless it is switched off. -/
def registerOne (resolve : String → Except ConfigError String) (table : Columns τ)
    (r : Registration τ) : Except SchedulerError (Columns τ) :=
  match resolve r.enabled with
  | .error e => .error (.config e)
  | .ok enabled =>
    if sameLetters enabled.toList "false".toList then .ok table
    else match resolve r.pattern with
      | .error e => .error (.config e)
      | .ok text =>
        match Pattern.parse text with
        | .error e => .error (.invalidPattern e)
        | .ok p =>
          match (Columns.add (.named r.id) p r.handler).run table with
          | .error e _ => .error (.table e)
          | .ok () table => .ok table

/-- The table with marked functions added in order; the first error ends it, with its warning. -/
def register (resolve : String → Except ConfigError String) (table : Columns τ) :
    List (Registration τ) → Except (SchedulerError × List BuildWarning) (Columns τ)
  | [] => .ok table
  | r :: rest =>
    match registerOne resolve table r with
    | .ok table => register resolve table rest
    | .error (.invalidPattern e) => .error (.invalidPattern e, [.invalidPattern r.id e])
    | .error e => .error (e, [])

/-- The scheduler, or the first error and its warnings; `lookup` finds the texts at key paths that
marked functions ask for. -/
def buildWith (b : Builder τ ι) (lookup : String → Except ConfigError String) (zones : TimeZones) :
    Except (SchedulerError × List BuildWarning) (Scheduler τ ι) :=
  match b.resolveSettings with
  | .error e => .error (.config e, [])
  | .ok settings =>
    match b.resolveZone zones settings with
    | .error e => .error (.invalidTimeZone e, [])
    | .ok zone =>
      let base : Scheduler τ ι := Scheduler.ofParts settings zone
      let s := { base with listeners := b.listeners.foldl Registry.add base.listeners }
      match register (Placeholder.resolveWith lookup) s.table (b.discovered.getD []) with
      | .error e => .error e
      | .ok table => .ok { s with table }

/-- The scheduler, or the first error and its warnings, with texts looked up in the builder's
configuration. -/
def build (b : Builder τ ι) (zones : TimeZones) :
    Except (SchedulerError × List BuildWarning) (Scheduler τ ι) :=
  b.buildWith b.config.string zones

end Builder

end Crontab
