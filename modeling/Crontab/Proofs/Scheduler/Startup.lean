import Crontab.Builder
import Crontab.Proofs.Executor.Bookkeeping
import Crontab.Proofs.Scheduler.Commands

/-!
# Starting under a limit

The limit on executions at once comes from settings, from a section of a configuration or from a
call on a builder.  Nothing looks at it before the scheduler is started, when so many permits have
to be counted.

* `SchedulerError.isBreakdown` — refusals that are no answer.
* `checkLimit_eq_ok_iff`, `Executor.exists_start` — the limits whose permits can be counted, and how
  an executor keeps to them.
* `Made`, `Made.inLifeCycle` — how schedulers are made, and that their options are those of the
  settings that hold.
* `checkOptions_ofSettings`, `start_of_stopped` — what keeps a scheduler from being started, and
  what starting does.
* `starts_unless_limit_uncountable` — a scheduler starts under every limit up to the most permits
  and keeps to it, and under every other one the start breaks down.
-/

set_option autoImplicit false

namespace Crontab

/-- The refusals that are no answer: the attempt breaks down before it can give one. -/
def SchedulerError.isBreakdown : SchedulerError → Bool
  | limit _ | nulInThreadName _ => true
  | _ => false

/-- The permits of a limit can be counted unless they are too many. -/
theorem checkLimit_eq_ok_iff {limit : Option Nat} :
    checkLimit limit = .ok () ↔ ∀ n, limit = some n → n ≤ maxPermits := by
  cases limit with
  | none => simp [checkLimit]
  | some n =>
    have hover := checkLimit_some_eq_error_iff (n := n)
    cases hn : checkLimit (some n) with
    | ok u =>
      have : ¬ maxPermits < n := fun h => by rw [hover.2 h] at hn; cases hn
      simpa using this
    | error e =>
      cases e
      simpa using hover.1 hn

/-- With permits that can be counted there is an executor, which keeps to the limit. -/
theorem Executor.exists_start {τ : Type} {limit : Option Nat} (h : checkLimit limit = .ok ())
    (matchSecond : Bool) :
    ∃ e₀ : Executor τ, start limit matchSecond = .ok e₀ ∧
      ∀ steps e, runSteps step e₀ steps = some e →
        ∀ n, limit = some n → e.running.length ≤ max n 1 := by
  obtain ⟨e₀, he₀⟩ : ∃ e₀ : Executor τ, start limit matchSecond = .ok e₀ := by
    rw [start, h]
    exact ⟨_, rfl⟩
  refine ⟨e₀, he₀, fun steps e he n hn => ?_⟩
  have hheld := (sound_of_start he₀ he).permits n hn
  have hpermits : permits n = max n 1 := rfl
  omega

namespace Scheduler

variable {τ ι : Type} {zones : TimeZones}

/-! ## How schedulers are made -/

/-- With the time zones there are, the scheduler is made with these settings: they are the default
ones or given ones, or they hold for the builder that builds it. -/
inductive Made (zones : TimeZones) : Settings → Scheduler τ ι → Prop where
  | new : Made zones {} (new zones.machine)
  | ofSettings {settings : Settings} {s : Scheduler τ ι} (h : ofSettings zones settings = .ok s) :
    Made zones settings s
  | build {b : Builder τ ι} {settings : Settings} {s : Scheduler τ ι}
    (hsettings : b.resolveSettings = .ok settings) (h : b.build zones = .ok s) :
    Made zones settings s

/-- A builder adds nothing but listeners and tasks to a scheduler of the settings that hold. -/
theorem eq_ofParts_of_build {b : Builder τ ι} {settings : Settings} {s : Scheduler τ ι}
    (hsettings : b.resolveSettings = .ok settings) (h : b.build zones = .ok s) :
    ∃ zone listeners table,
      s = { (ofParts settings zone : Scheduler τ ι) with listeners, table } := by
  simp only [Builder.build, Builder.buildWith, hsettings] at h
  split at h
  · cases h
  · next zone hzone =>
    split at h
    · cases h
    · next table htable =>
      cases h
      exact ⟨zone, _, table, rfl⟩

/-- A scheduler is made stopped, with the options of its settings. -/
theorem Made.inLifeCycle {settings : Settings} {s : Scheduler τ ι} (h : Made zones settings s) :
    InLifeCycle (.ofSettings settings) false s := by
  cases h with
  | new => exact .ofParts {} (.localTime zones.machine)
  | ofSettings h =>
    unfold Scheduler.ofSettings at h
    split at h
    · cases h
    · next zone hzone =>
      cases h
      exact .ofParts settings zone
  | build hsettings h =>
    obtain ⟨zone, listeners, table, rfl⟩ := eq_ofParts_of_build hsettings h
    exact ⟨rfl, rfl, fun _ ht => nomatch ht⟩

/-! ## Starting -/

/-- With a name that threads can have, the limit alone keeps a scheduler from being started. -/
theorem checkOptions_ofSettings {settings : Settings}
    (hname : '\x00' ∉ settings.threadName.toList) :
    checkOptions (.ofSettings settings) =
      (checkLimit settings.maxConcurrentTasks).mapError .limit := by
  have hworker : (ExecutionOptions.ofSettings settings).workerName.toList.contains '\x00' =
      false := by
    simpa [ExecutionOptions.workerName, ExecutionOptions.ofSettings, String.toList_append] using
      hname
  rw [checkOptions, hworker]
  cases h : checkLimit settings.maxConcurrentTasks <;> simp [ExecutionOptions.ofSettings, h] <;> rfl

/-- A stopped scheduler is started with the timer of its mode, or left as it is. -/
theorem start_of_stopped {o : ExecutionOptions} {s : Scheduler τ ι} (h : InLifeCycle o false s) :
    start.result s = checkOptions o ∧
      (checkOptions o = .ok () → (start.after s).timer = some (Timer.ofMode s.matchSecond)) ∧
      ∀ e, checkOptions o = .error e → start.after s = s := by
  have hresult : start.result s = checkOptions o := by
    simp [result_start, h.isStarted, h.options]
  refine ⟨hresult, fun hok => ?_, fun e he => allOrNothing_start (hresult.trans he)⟩
  simp [after_start, h.isStarted, h.options, hok]

/-- **A scheduler can be started if and only if the permits of its limit can be counted.**  However
it was made and whatever it was told before, take a scheduler that is stopped, whose settings give
no number of threads or zero, and a name that threads can have.  It still has the limit of its
settings, and leaves the number of threads to the default.  Without a limit, or with one that is not
above the most permits, it starts with the timer of its mode, and the executor of that timer never
runs more executions at once than the limit, or than one if the limit is zero.  With any other limit
the start breaks down, and the scheduler is stopped as before.

The bound is that of the executor that this start makes.  Executions that an earlier one was running
when the scheduler was stopped may still go on beside it, under permits of their own. -/
theorem starts_unless_limit_uncountable [DecidableEq ι] {settings : Settings} {s : Scheduler τ ι}
    (hmade : Made zones settings s)
    (hthreads : settings.workerThreads = none ∨ settings.workerThreads = some 0)
    (hname : '\x00' ∉ settings.threadName.toList) (history : List (Command τ ι))
    (hstopped : (Attempt.afterAll perform history s).isStarted = false) :
    let t := Attempt.afterAll perform history s
    t.options.limit = settings.maxConcurrentTasks ∧ t.options.workerThreads = none ∧
    ((∀ n, settings.maxConcurrentTasks = some n → n ≤ maxPermits) →
      start.result t = .ok () ∧ (start.after t).isStarted = true ∧
      (start.after t).timer = some (Timer.ofMode t.matchSecond) ∧
      ∃ e₀ : Executor τ, Executor.start t.options.limit t.matchSecond = .ok e₀ ∧
        ∀ steps e, runSteps Executor.step e₀ steps = some e →
          ∀ n, settings.maxConcurrentTasks = some n → e.running.length ≤ max n 1) ∧
    ∀ n, settings.maxConcurrentTasks = some n → maxPermits < n →
      start.result t = .error (.limit .tooManyPermits) ∧ start.after t = t ∧
      Executor.start (τ := τ) t.options.limit t.matchSecond = .error .tooManyPermits := by
  intro t
  have hcycle := hmade.inLifeCycle.afterAll_perform history
  rw [← hcycle.isStarted, hstopped] at hcycle
  obtain ⟨hresult, hstart, hrefused⟩ := start_of_stopped hcycle
  have hcheck := checkOptions_ofSettings hname
  have hlimit : t.options.limit = settings.maxConcurrentTasks :=
    congrArg ExecutionOptions.limit hcycle.options
  refine ⟨hlimit, ?_, fun hcountable => ?_, fun n hn hover => ?_⟩
  · have hworkers : t.options.workerThreads = settings.workerThreads.filter (0 < ·) :=
      congrArg ExecutionOptions.workerThreads hcycle.options
    rw [hworkers]
    obtain h | h := hthreads <;> rw [h] <;> rfl
  · have hpermits := checkLimit_eq_ok_iff.2 hcountable
    have hok : checkOptions (.ofSettings settings) = .ok () := by rw [hcheck, hpermits]; rfl
    have htimer := hstart hok
    have hexecutor := Executor.exists_start (τ := τ) hpermits t.matchSecond
    rw [← hlimit] at hexecutor ⊢
    exact ⟨hresult.trans hok, by rw [isStarted, htimer]; rfl, htimer, hexecutor⟩
  · have hpermits : checkLimit settings.maxConcurrentTasks = .error .tooManyPermits := by
      rw [hn]
      exact checkLimit_some_eq_error_iff.2 hover
    have herror : checkOptions (.ofSettings settings) = .error (.limit .tooManyPermits) := by
      rw [hcheck, hpermits]
      rfl
    refine ⟨hresult.trans herror, hrefused _ herror, ?_⟩
    rw [hlimit, Executor.start, hpermits]

/-- A call on the builder gives the limit zero, and the section below it one that cannot be counted.
Once started and stopped, the scheduler starts again, and the executor that is made then runs one
execution at a time. -/
theorem starts_unless_limit_uncountable_below_call :
    let config : Config := ⟨.table [("scheduler",
      .table [("max_concurrent_tasks", .int 2305843009213693952), ("worker_threads", .int 0)])]⟩
    let zones : TimeZones := .ofList (.fixed 0) []
    let b : Builder Unit Unit := (Builder.ofConfig config).call (.maxConcurrentTasks 0)
    let settings : Settings := { maxConcurrentTasks := some 0, workerThreads := some 0 }
    let history : List (Command Unit Unit) := [.start, .stop]
    ∃ s t, b.resolveSettings = .ok settings ∧ b.build zones = .ok s ∧
      '\x00' ∉ settings.threadName.toList ∧ Attempt.afterAll perform history s = t ∧
      t.isStarted = false ∧ start.result t = .ok () ∧
      ∃ e₀ : Executor Unit, Executor.start t.options.limit t.matchSecond = .ok e₀ ∧
        ∀ steps e, runSteps Executor.step e₀ steps = some e → e.running.length ≤ 1 := by
  intro config zones b settings history
  let s : Scheduler Unit Unit := ofParts settings (.localTime zones.machine)
  have hsettings : b.resolveSettings = .ok settings := rfl
  have hzone : b.resolveZone zones settings = .ok (.localTime zones.machine) := by decide
  have hbuild : b.build zones = .ok s := by
    simp only [Builder.build, Builder.buildWith, hsettings, hzone]
    rfl
  have hname : '\x00' ∉ settings.threadName.toList := by decide
  have hstopped : (Attempt.afterAll perform history s).isStarted = false := by decide
  obtain ⟨-, -, hstarts, -⟩ :=
    starts_unless_limit_uncountable (.build hsettings hbuild) (.inr rfl) hname history hstopped
  obtain ⟨hresult, -, -, e₀, he₀, hbound⟩ := hstarts (by rintro n ⟨⟩; decide)
  exact ⟨s, _, hsettings, hbuild, hname, rfl, hstopped, hresult, e₀, he₀,
    fun steps e he => hbound steps e he 0 rfl⟩

/-- One permit more than can be counted is accepted as a setting, in a section of a configuration
and from a call on a builder.  All three give the same scheduler, whose start breaks down and leaves
it stopped. -/
theorem start_breaks_down_above_most_permits :
    let settings : Settings := { maxConcurrentTasks := some 2305843009213693952 }
    let config : Config :=
      ⟨.table [("scheduler", .table [("max_concurrent_tasks", .int 2305843009213693952)])]⟩
    let called : Builder Unit Unit :=
      (Builder.ofConfig .empty).call (.maxConcurrentTasks 2305843009213693952)
    let zones : TimeZones := .ofList (.fixed 0) []
    let e : SchedulerError := .limit .tooManyPermits
    ∃ s : Scheduler Unit Unit, ofSettings zones settings = .ok s ∧
      (Builder.ofConfig config).build zones = .ok s ∧ called.build zones = .ok s ∧
      s.isStarted = false ∧ start.result s = .error e ∧ e.isBreakdown = true ∧
      (start.after s).isStarted = false :=
  ⟨ofParts { maxConcurrentTasks := some 2305843009213693952 } (.localTime (.fixed 0)),
    rfl, rfl, rfl, rfl, rfl, rfl, rfl⟩

end Scheduler

end Crontab
