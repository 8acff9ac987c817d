import Crontab.Proofs.Builder.Discovered
import Crontab.Proofs.LastGiven
import Crontab.Proofs.Pattern.Meaning

/-!
# Which options of a builder hold

A builder is given options by calls, in any order and any number.  Of the calls on one option the
last counts, save that listeners add up.  An option that is given holds; without it the settings
given last decide, without them the configuration, and without a value there the default.  What does
not decide is not looked at, so that nothing in it is an error.

* `BuilderOption`, `BuilderCall.option` — what a call is about.
* `callAll_eq` — the builder after calls.
* `Settings.ReadFrom`, `Underlying` — the settings below the explicit options.
* `ofConfig_eq_ok_iff` — those of a configuration.
* `options_take_precedence` — the scheduler that is built, or why there is none.
-/

set_option autoImplicit false

namespace Crontab

variable {τ ι : Type}

/-! ## Calls -/

/-- What a call on a builder is about. -/
inductive BuilderOption where
  | settings
  | timeZone
  | daemon
  | matchSecond
  | maxConcurrentTasks
  | listener
deriving DecidableEq, Repr

namespace BuilderCall

def option : BuilderCall ι → BuilderOption
  | settings _ => .settings
  | timeZone _ => .timeZone
  | daemon _ => .daemon
  | matchSecond _ => .matchSecond
  | maxConcurrentTasks _ => .maxConcurrentTasks
  | listener _ => .listener

/-! What a call gives: the settings, the zone, and so on, if it is about them. -/

def settings? : BuilderCall ι → Option Settings
  | settings s => some s
  | _ => none

def timeZone? : BuilderCall ι → Option Zone
  | timeZone z => some z
  | _ => none

def daemon? : BuilderCall ι → Option Bool
  | daemon b => some b
  | _ => none

def matchSecond? : BuilderCall ι → Option Bool
  | matchSecond b => some b
  | _ => none

def maxConcurrentTasks? : BuilderCall ι → Option Nat
  | maxConcurrentTasks n => some n
  | _ => none

def listener? : BuilderCall ι → Option ι
  | listener l => some l
  | _ => none

/-- A call gives only what it is about. -/
theorem eq_none_of_option_ne (c : BuilderCall ι) :
    (c.option ≠ .settings → c.settings? = none) ∧ (c.option ≠ .timeZone → c.timeZone? = none) ∧
    (c.option ≠ .daemon → c.daemon? = none) ∧ (c.option ≠ .matchSecond → c.matchSecond? = none) ∧
    (c.option ≠ .maxConcurrentTasks → c.maxConcurrentTasks? = none) ∧
    (c.option ≠ .listener → c.listener? = none) := by
  cases c <;> simp [option, settings?, timeZone?, daemon?, matchSecond?, maxConcurrentTasks?,
    listener?]

/-- What the calls on one option give does not depend on the others. -/
theorem filterMap_filter_option {α : Type} {f : BuilderCall ι → Option α} {o : BuilderOption}
    (hf : ∀ c, c.option ≠ o → f c = none) (calls : List (BuilderCall ι)) :
    (calls.filter (·.option = o)).filterMap f = calls.filterMap f := by
  rw [List.filterMap_filter]
  congr 1
  funext c
  by_cases hc : c.option = o
  · simp [hc]
  · simp [hc, hf c hc]

end BuilderCall

namespace Builder

/-- Calls on different options may be exchanged. -/
theorem call_comm {c d : BuilderCall ι} (h : c.option ≠ d.option) (b : Builder τ ι) :
    (b.call c).call d = (b.call d).call c := by
  cases c <;> cases d <;> first | rfl | exact absurd rfl h

/-- The builder after calls: the last call on each option counts, and listeners add up. -/
theorem callAll_eq (b : Builder τ ι) (calls : List (BuilderCall ι)) :
    b.callAll calls =
      { b with
        settings := (lastGiven BuilderCall.settings? calls).or b.settings
        timeZone := (lastGiven BuilderCall.timeZone? calls).or b.timeZone
        daemon := (lastGiven BuilderCall.daemon? calls).or b.daemon
        matchSecond := (lastGiven BuilderCall.matchSecond? calls).or b.matchSecond
        maxConcurrentTasks :=
          (lastGiven BuilderCall.maxConcurrentTasks? calls).or b.maxConcurrentTasks
        listeners := b.listeners ++ calls.filterMap BuilderCall.listener? } := by
  induction calls generalizing b with
  | nil => simp [callAll]
  | cons c calls ih =>
    have hcall : b.callAll (c :: calls) = (b.call c).callAll calls := rfl
    rw [hcall, ih]
    cases c <;> simp [call, lastGiven_cons, BuilderCall.settings?, BuilderCall.timeZone?,
      BuilderCall.daemon?, BuilderCall.matchSecond?, BuilderCall.maxConcurrentTasks?,
      BuilderCall.listener?, List.filterMap_cons]

/-- It does not matter how calls on different options are mixed. -/
theorem callAll_congr {calls others : List (BuilderCall ι)}
    (h : ∀ o, others.filter (·.option = o) = calls.filter (·.option = o)) (b : Builder τ ι) :
    b.callAll others = b.callAll calls := by
  have hsame : ∀ {α : Type} {f : BuilderCall ι → Option α} (o : BuilderOption),
      (∀ c, c.option ≠ o → f c = none) → others.filterMap f = calls.filterMap f := by
    intro α f o hf
    rw [← BuilderCall.filterMap_filter_option hf others, h, BuilderCall.filterMap_filter_option hf]
  have hnone := BuilderCall.eq_none_of_option_ne (ι := ι)
  simp only [callAll_eq, lastGiven, hsame .settings fun c => (hnone c).1,
    hsame .timeZone fun c => (hnone c).2.1, hsame .daemon fun c => (hnone c).2.2.1,
    hsame .matchSecond fun c => (hnone c).2.2.2.1,
    hsame .maxConcurrentTasks fun c => (hnone c).2.2.2.2.1,
    hsame .listener fun c => (hnone c).2.2.2.2.2]

end Builder

theorem Registry.foldl_add (r : Registry ι) (l : List ι) : l.foldl add r = ⟨r.listeners ++ l⟩ := by
  induction l generalizing r with
  | nil => simp
  | cons x l ih => rw [List.foldl_cons, ih, add, List.append_assoc, List.singleton_append]

/-! ## Settings below the explicit options -/

/-- What stands under a name in a section: a table goes by names, a list by the order of the
settings. -/
inductive Value.SectionFinds : Value → (String → Option Value) → Prop where
  | table (fields : List (String × Value)) :
    SectionFinds (.table fields) fun name => fields.lookup name
  | array (items : List Value) :
    SectionFinds (.array items) fun name => (Settings.fieldNames.zip items).lookup name

/-- Settings that are read value by value from what stands under their names; where nothing stands,
the default holds. -/
structure Settings.ReadFrom (find : String → Option Value) (s : Settings) : Prop where
  timeZone : given (find "time_zone") Value.text "local" = .ok s.timeZone
  daemon : given (find "daemon") Value.switch false = .ok s.daemon
  matchSecond : given (find "match_second") Value.switch false = .ok s.matchSecond
  maxConcurrentTasks :
    given (find "max_concurrent_tasks") Value.count? none = .ok s.maxConcurrentTasks
  workerThreads : given (find "worker_threads") Value.count? none = .ok s.workerThreads
  threadName : given (find "thread_name_prefix") Value.text "cronus-" = .ok s.threadName
  logTaskFailures : given (find "log_task_failures") Value.switch true = .ok s.logTaskFailures

/-- The settings below the explicit options: those that were given, or else those of the
configuration's section, or else the defaults. -/
inductive Underlying (config : Config) : Option Settings → Settings → Prop where
  | given (s : Settings) : Underlying config (some s) s
  | ofSection {v : Value} {find : String → Option Value} {s : Settings}
    (hv : config.root.field? "scheduler" = some v) (hfind : v.SectionFinds find)
    (hs : s.ReadFrom find) : Underlying config none s
  | defaults (hv : config.root.field? "scheduler" = none) : Underlying config none {}

namespace Settings

theorem ofFields_eq_ok_iff {find : String → Option Value} {s : Settings} :
    ofFields find = .ok s ↔ s.ReadFrom find := by
  simp only [ofFields, bind_eq_ok_iff]
  constructor
  · rintro ⟨_, htimeZone, _, hdaemon, _, hmatchSecond, _, hlimit, _, hworkers, _, hname, _, hlog, h⟩
    cases h
    exact ⟨htimeZone, hdaemon, hmatchSecond, hlimit, hworkers, hname, hlog⟩
  · intro h
    exact ⟨_, h.timeZone, _, h.daemon, _, h.matchSecond, _, h.maxConcurrentTasks, _,
      h.workerThreads, _, h.threadName, _, h.logTaskFailures, rfl⟩

theorem ofSection_eq_ok_iff {v : Value} {s : Settings} :
    ofSection v = .ok s ↔ ∃ find, v.SectionFinds find ∧ s.ReadFrom find := by
  constructor
  · intro h
    cases v with
    | table fields => exact ⟨_, .table fields, ofFields_eq_ok_iff.1 h⟩
    | array items => exact ⟨_, .array items, ofFields_eq_ok_iff.1 h⟩
    | _ => cases h
  · rintro ⟨find, hfind, hs⟩
    cases hfind <;> exact ofFields_eq_ok_iff.2 hs

theorem ofConfig_eq_ok_iff {config : Config} {s : Settings} :
    ofConfig config = .ok s ↔ Underlying config none s := by
  rw [ofConfig]
  constructor
  · intro h
    cases hv : config.root.field? "scheduler" with
    | none =>
      rw [hv] at h
      cases h
      exact .defaults hv
    | some v =>
      rw [hv] at h
      obtain ⟨find, hfind, hs⟩ := ofSection_eq_ok_iff.1 h
      exact .ofSection hv hfind hs
  · intro h
    cases h with
    | ofSection hv hfind hs =>
      rw [hv]
      exact ofSection_eq_ok_iff.2 ⟨_, hfind, hs⟩
    | defaults hv => rw [hv]

end Settings

/-- There are such settings unless only a section that cannot be read is left. -/
theorem exists_underlying_iff {config : Config} {given : Option Settings} :
    (∃ base, Underlying config given base) ↔
      ¬ (given = none ∧ ∃ e, Settings.ofConfig config = .error e) := by
  cases given with
  | some s => exact iff_of_true ⟨s, .given s⟩ (by simp)
  | none =>
    simp only [← Settings.ofConfig_eq_ok_iff, true_and]
    cases Settings.ofConfig config <;> simp

/-! ## The scheduler -/

namespace Builder

section

variable {zones : TimeZones} {config : Config} {calls : List (BuilderCall ι)}

theorem baseSettings_callAll_eq_ok_iff {base : Settings} :
    ((ofConfig config : Builder τ ι).callAll calls).baseSettings = .ok base ↔
      Underlying config (lastGiven BuilderCall.settings? calls) base := by
  rw [callAll_eq, baseSettings]
  cases lastGiven BuilderCall.settings? calls with
  | none => exact Settings.ofConfig_eq_ok_iff
  | some s =>
    constructor
    · intro h
      cases h
      exact .given base
    · intro h
      cases h
      rfl

/-- Without settings among the calls, a section that cannot be read ends the building. -/
theorem build_of_malformed {e : ConfigError} (hs : lastGiven BuilderCall.settings? calls = none)
    (he : Settings.ofConfig config = .error e) :
    ((ofConfig config : Builder τ ι).callAll calls).build zones = .error (.config e, []) := by
  have hbase : ((ofConfig config : Builder τ ι).callAll calls).baseSettings = .error e := by
    rw [callAll_eq, baseSettings, hs]
    exact he
  simp only [build, buildWith, resolveSettings, hbase]

/-- Explicit options are laid over the settings below them. -/
theorem resolveSettings_callAll {base : Settings}
    (hbase : Underlying config (lastGiven BuilderCall.settings? calls) base) :
    ((ofConfig config : Builder τ ι).callAll calls).resolveSettings = .ok { base with
      daemon := (lastGiven BuilderCall.daemon? calls).getD base.daemon
      matchSecond := (lastGiven BuilderCall.matchSecond? calls).getD base.matchSecond
      maxConcurrentTasks :=
        (lastGiven BuilderCall.maxConcurrentTasks? calls).or base.maxConcurrentTasks } := by
  rw [resolveSettings, baseSettings_callAll_eq_ok_iff.2 hbase, callAll_eq]
  simp [ofConfig]

/-- The zone given holds, and only without one the name in the settings is looked at. -/
theorem resolveZone_callAll (settings : Settings) :
    ((ofConfig config : Builder τ ι).callAll calls).resolveZone zones settings =
      ((lastGiven BuilderCall.timeZone? calls).map .ok).getD
        (Zone.parse zones settings.timeZone) := by
  rw [resolveZone, callAll_eq]
  cases h : lastGiven BuilderCall.timeZone? calls <;> simp [ofConfig]

/-- Without a zone among the calls, a name that no zone has ends the building. -/
theorem build_of_bad_zone {base : Settings} {e : InvalidTimeZone}
    (hbase : Underlying config (lastGiven BuilderCall.settings? calls) base)
    (hz : lastGiven BuilderCall.timeZone? calls = none)
    (he : Zone.parse zones base.timeZone = .error e) :
    ((ofConfig config : Builder τ ι).callAll calls).build zones =
      .error (.invalidTimeZone e, []) := by
  simp only [build, buildWith, resolveSettings_callAll hbase, resolveZone_callAll, hz, Option.map_none,
    Option.getD_none, he]

/-- With settings and a zone the scheduler is built. -/
theorem build_of_zone {base : Settings} {zone : Zone}
    (hbase : Underlying config (lastGiven BuilderCall.settings? calls) base)
    (hz : lastGiven BuilderCall.timeZone? calls = some zone ∨
      lastGiven BuilderCall.timeZone? calls = none ∧ Zone.parse zones base.timeZone = .ok zone) :
    ((ofConfig config : Builder τ ι).callAll calls).build zones = .ok {
      table := Columns.empty
      listeners := ⟨calls.filterMap BuilderCall.listener?⟩
      zone
      options := { ExecutionOptions.ofSettings base with
        limit := (lastGiven BuilderCall.maxConcurrentTasks? calls).or base.maxConcurrentTasks }
      daemon := (lastGiven BuilderCall.daemon? calls).getD base.daemon
      matchSecond := (lastGiven BuilderCall.matchSecond? calls).getD base.matchSecond
      timer := none
      generated := 0 } := by
  have hzone : ∀ settings : Settings, settings.timeZone = base.timeZone →
      ((ofConfig config : Builder τ ι).callAll calls).resolveZone zones settings =
        .ok zone := by
    intro settings hname
    rw [resolveZone_callAll, hname]
    rcases hz with hz | ⟨hz, hparse⟩
    · simp [hz]
    · simp [hz, hparse]
  rw [build, buildWith_of_resolved _ (resolveSettings_callAll hbase) (hzone _ rfl), callAll_eq]
  simp [ofConfig, register, Scheduler.ofParts, ExecutionOptions.ofSettings, Registry.foldl_add,
    Registry.empty]

end

theorem zone_or_error (zones : TimeZones) (explicitZone : Option Zone) (name : String) :
    (∃ zone, explicitZone = some zone ∨ explicitZone = none ∧ Zone.parse zones name = .ok zone) ∨
      explicitZone = none ∧ ∃ e, Zone.parse zones name = .error e := by
  cases explicitZone <;> cases Zone.parse zones name <;> simp

/-- **Options by precedence.**  Whatever zones there are by name, and whatever calls a builder gets,
in any order and number:

Calls on different options may be exchanged, and it does not matter how they are mixed.

A section of the configuration that cannot be read ends the building exactly when no settings were
given.  In all other cases there are settings below the explicit options: those given last, or else
those of the section, or else the defaults.

A name in these settings that no zone has ends the building exactly when no zone was given.  With
the zone given last, or else the one of that name, the scheduler is built: its daemon flag, its mode
and its limit are the ones given last, or else those of the settings; the listeners are registered
in the order of their calls. -/
theorem options_take_precedence (zones : TimeZones) (config : Config)
    (calls : List (BuilderCall ι)) :
    let b : Builder τ ι := (ofConfig config).callAll calls
    let given := lastGiven BuilderCall.settings? calls
    let explicitZone := lastGiven BuilderCall.timeZone? calls
    (∀ c d : BuilderCall ι, c.option ≠ d.option →
      ∀ a : Builder τ ι, (a.call c).call d = (a.call d).call c) ∧
    (∀ others : List (BuilderCall ι),
      (∀ o, others.filter (·.option = o) = calls.filter (·.option = o)) →
      (ofConfig config).callAll others = b) ∧
    (∀ e, Settings.ofConfig config = .error e →
      (b.build zones = .error (.config e, []) ↔ given = none)) ∧
    ((∃ base, Underlying config given base) ↔
      ¬ (given = none ∧ ∃ e, Settings.ofConfig config = .error e)) ∧
    ∀ base, Underlying config given base →
      (∀ e, Zone.parse zones base.timeZone = .error e →
        (b.build zones = .error (.invalidTimeZone e, []) ↔ explicitZone = none)) ∧
      ∀ zone, explicitZone = some zone ∨
          explicitZone = none ∧ Zone.parse zones base.timeZone = .ok zone →
        b.build zones = .ok {
          table := Columns.empty
          listeners := ⟨calls.filterMap BuilderCall.listener?⟩
          zone
          options := { ExecutionOptions.ofSettings base with
            limit := (lastGiven BuilderCall.maxConcurrentTasks? calls).or base.maxConcurrentTasks }
          daemon := (lastGiven BuilderCall.daemon? calls).getD base.daemon
          matchSecond := (lastGiven BuilderCall.matchSecond? calls).getD base.matchSecond
          timer := none
          generated := 0 } := by
  intro b given explicitZone
  refine ⟨fun c d h a => call_comm h a, fun others h => callAll_congr h _, fun e he => ⟨?_, ?_⟩,
    ?_, fun base hbase => ⟨fun e he => ⟨?_, ?_⟩, fun zone hz => build_of_zone hbase hz⟩⟩
  · intro h
    cases hgiven : given with
    | none => rfl
    | some s =>
      have hbase : Underlying config given s := hgiven ▸ .given s
      rcases zone_or_error zones explicitZone s.timeZone with ⟨zone, hz⟩ | ⟨hz, e', he'⟩
      · cases (build_of_zone hbase hz).symm.trans h
      · cases (build_of_bad_zone hbase hz he').symm.trans h
  · exact fun h => build_of_malformed h he
  · exact exists_underlying_iff
  · intro h
    cases hz : explicitZone with
    | none => rfl
    | some zone => cases (build_of_zone hbase (.inl hz)).symm.trans h
  · exact fun h => build_of_bad_zone hbase h he

/-- Of two names only one is that of a zone.  The other one, in the settings given, ends the building
without a zone among the calls and is hidden by one, and options that are given count whether they
come before the settings or after them.  The name of a zone, in the section, gives that zone. -/
theorem options_take_precedence_over_zone_names :
    let shanghai : Offsets := .ofPairs 29143 [(-2177481943, 28800)]
    let zones : TimeZones := .ofList (.fixed 0) [("Asia/Shanghai", shanghai)]
    let config : Config := ⟨.table [("scheduler",
      .table [("time_zone", .str " Asia/Shanghai\t"), ("daemon", .bool true)])]⟩
    let settings : Settings :=
      { timeZone := "Mars/Olympus", matchSecond := true, maxConcurrentTasks := some 3 }
    let after (calls : List (BuilderCall String)) : Builder Nat String :=
      (ofConfig config).callAll calls
    Underlying config (some settings) settings ∧
      (after [.settings settings]).build zones = .error (.invalidTimeZone ⟨"Mars/Olympus"⟩, []) ∧
      (∃ s, (after [.daemon false, .listener "first", .daemon true, .settings settings,
          .timeZone (.localTime (.fixed 3600)), .listener "second",
          .maxConcurrentTasks 5]).build zones = .ok s ∧
        s.zone = .localTime (.fixed 3600) ∧ s.daemon = true ∧ s.matchSecond = true ∧
        s.options.limit = some 5 ∧ s.listeners = ⟨["first", "second"]⟩) ∧
      ∃ base, Underlying config none base ∧
        ∃ s, (after []).build zones = .ok s ∧ s.zone = .named "Asia/Shanghai" shanghai ∧
          s.daemon = true := by
  intro shanghai zones config settings after
  have hgiven : Underlying config (some settings) settings := .given settings
  obtain ⟨base, hbase, hname, hdaemon⟩ : ∃ base, Underlying config none base ∧
      base.timeZone = " Asia/Shanghai\t" ∧ base.daemon = true :=
    ⟨_, Settings.ofConfig_eq_ok_iff.1 rfl, rfl, rfl⟩
  have hbad : Zone.parse zones settings.timeZone = .error ⟨"Mars/Olympus"⟩ := by decide
  have hgood : Zone.parse zones base.timeZone = .ok (.named "Asia/Shanghai" shanghai) := by
    rw [hname]
    decide
  refine ⟨hgiven, ?_, ?_, base, hbase, ?_⟩
  · obtain ⟨-, -, -, -, hbuilds⟩ :=
      options_take_precedence (τ := Nat) (ι := String) zones config [.settings settings]
    exact ((hbuilds settings hgiven).1 _ hbad).2 rfl
  · obtain ⟨-, -, -, -, hbuilds⟩ := options_take_precedence (τ := Nat) zones config
      [.daemon false, .listener "first", .daemon true, .settings settings,
        .timeZone (.localTime (.fixed 3600)), .listener "second", .maxConcurrentTasks 5]
    exact ⟨_, (hbuilds settings hgiven).2 _ (.inl rfl), rfl, rfl, rfl, rfl, rfl⟩
  · obtain ⟨-, -, -, -, hbuilds⟩ :=
      options_take_precedence (τ := Nat) (ι := String) zones config []
    exact ⟨_, (hbuilds base hbase).2 _ (.inr ⟨rfl, hgood⟩), rfl, hdaemon⟩

end Builder

end Crontab
