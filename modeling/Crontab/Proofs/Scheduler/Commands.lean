import Crontab.Scheduler

/-!
# Schedulers under commands

A scheduler is told one command after another, some of which it refuses.

* `result_start`, `after_stop` and the like — how a part of a command is answered, and what it
  leaves behind.
* `allOrNothing_perform` — a refused command changes nothing.
* `AboutTable`, `aboutTable_perform` — commands about the table do the same whether the timer runs
  or not.
* `InLifeCycle`, `InLifeCycle.afterAll_perform` — the life cycle, after a step and any history.
* `commands_keep_to_lifeCycle` — all of this of every scheduler that commands can lead to.
-/

set_option autoImplicit false

namespace Crontab

namespace Scheduler

variable {τ ι : Type}

/-! ## Parts of commands -/

section

variable (s : Scheduler τ ι) (change : Attempt TableError (Columns τ) Unit)

@[simp] theorem result_onTable :
    (onTable change).result s = (change.result s.table).mapError .table := by
  simp only [onTable, Attempt.result_bind, Attempt.result_get, Attempt.after_get,
    Attempt.result_set, Attempt.after_set]
  cases change.result s.table <;> rfl

@[simp] theorem after_onTable :
    (onTable change).after s = { s with table := change.after s.table } := by
  simp only [onTable, Attempt.after_bind, Attempt.result_get, Attempt.after_get,
    Attempt.result_set, Attempt.after_set]
  cases change.result s.table <;> rfl

@[simp] theorem result_parsed (text : String) :
    (parsed text).result s = (Pattern.parse text).mapError .invalidPattern := by
  rw [parsed]
  cases Pattern.parse text <;> rfl

@[simp] theorem after_parsed (text : String) : (parsed text).after s = s := by
  rw [parsed]
  cases Pattern.parse text <;> rfl

@[simp] theorem result_refuseWhenStarted :
    refuseWhenStarted.result s = if s.isStarted then .error .alreadyStarted else .ok () := by
  simp only [refuseWhenStarted, Attempt.result_bind, Attempt.result_get, Attempt.after_get]
  split <;> rfl

@[simp] theorem after_refuseWhenStarted : refuseWhenStarted.after s = s := by
  simp only [refuseWhenStarted, Attempt.after_bind, Attempt.result_get, Attempt.after_get]
  split <;> rfl

@[simp] theorem result_changeSetting (f : Scheduler τ ι → Scheduler τ ι) :
    (changeSetting f).result s = if s.isStarted then .error .alreadyStarted else .ok () := by
  by_cases hs : s.isStarted <;> simp [changeSetting, hs]

@[simp] theorem after_changeSetting (f : Scheduler τ ι → Scheduler τ ι) :
    (changeSetting f).after s = if s.isStarted then s else f s := by
  by_cases hs : s.isStarted <;> simp [changeSetting, hs]

theorem result_start : start.result s =
    if s.isStarted then .error .alreadyStarted else checkOptions s.options := by
  by_cases hs : s.isStarted
  · simp [start, hs]
  · cases h : checkOptions s.options <;> simp [start, hs, h]

theorem after_start : start.after s = if s.isStarted then s else
    match checkOptions s.options with
    | .ok () => { s with timer := some (Timer.ofMode s.matchSecond) }
    | .error _ => s := by
  by_cases hs : s.isStarted
  · simp [start, hs]
  · cases h : checkOptions s.options <;> simp [start, hs, h]

theorem result_stop :
    stop.result s = if s.isStarted then .ok () else .error .notStarted := by
  cases h : s.timer <;> simp [stop, isStarted, h]

@[simp] theorem after_stop : stop.after s = { s with timer := none } := by
  cases h : s.timer <;> simp [stop, h]

end

/-! ## Refused commands -/

theorem allOrNothing_onTable {change : Attempt TableError (Columns τ) Unit}
    (h : change.AllOrNothing) :
    (onTable change : Attempt SchedulerError (Scheduler τ ι) Unit).AllOrNothing := by
  intro s e he
  rw [result_onTable] at he
  rw [after_onTable]
  cases hc : change.result s.table with
  | ok x => rw [hc] at he; cases he
  | error e' => rw [h hc]

theorem allOrNothing_scheduleWithId (id : TaskId) (text : String) (task : τ) :
    (scheduleWithId id text task : Attempt SchedulerError (Scheduler τ ι) Unit).AllOrNothing :=
  .bind_of_keeps (fun s => after_parsed s text) fun p =>
    allOrNothing_onTable (Columns.allOrNothing_add id p task)

theorem allOrNothing_schedule (text : String) (task : τ) :
    (schedule text task : Attempt SchedulerError (Scheduler τ ι) TaskId).AllOrNothing :=
  .bind_of_keeps (fun _ => rfl) fun _ =>
    .bind_of_succeeds (allOrNothing_scheduleWithId _ text task) fun _ _ => ⟨_, rfl⟩

theorem allOrNothing_updatePattern (id : TaskId) (text : String) :
    (updatePattern id text : Attempt SchedulerError (Scheduler τ ι) Unit).AllOrNothing :=
  .bind_of_keeps (fun s => after_parsed s text) fun p =>
    allOrNothing_onTable (Columns.allOrNothing_updatePattern id p)

theorem allOrNothing_changeSetting (f : Scheduler τ ι → Scheduler τ ι) :
    (changeSetting f).AllOrNothing :=
  .bind_of_keeps after_refuseWhenStarted fun _ _ _ he => nomatch he

theorem allOrNothing_start :
    (start : Attempt SchedulerError (Scheduler τ ι) Unit).AllOrNothing := by
  intro s e he
  rw [result_start] at he
  rw [after_start]
  split
  · rfl
  · rename_i hs
    rw [if_neg hs] at he
    rw [he]

/-- A scheduler without a timer is told to stop in vain, and has none to lose. -/
theorem allOrNothing_stop :
    (stop : Attempt SchedulerError (Scheduler τ ι) Unit).AllOrNothing := by
  intro s e he
  rw [result_stop] at he
  rw [after_stop]
  cases ht : s.timer with
  | none => rw [← ht]
  | some t => simp [isStarted, ht] at he

/-- **A refused command changes nothing.** -/
theorem allOrNothing_perform [DecidableEq ι] (c : Command τ ι) : (perform c).AllOrNothing := by
  cases c with
  | schedule text task =>
    exact (allOrNothing_schedule text task).bind_of_succeeds fun _ _ => ⟨_, rfl⟩
  | scheduleWithId id text task =>
    exact (allOrNothing_scheduleWithId id text task).bind_of_succeeds fun _ _ => ⟨_, rfl⟩
  | schedulePattern id p task =>
    exact (allOrNothing_onTable (Columns.allOrNothing_add id p task)).bind_of_succeeds
      fun _ _ => ⟨_, rfl⟩
  | deschedule id =>
    exact (allOrNothing_onTable (Columns.allOrNothing_remove id)).bind_of_succeeds
      fun _ _ => ⟨_, rfl⟩
  | updatePattern id text =>
    exact (allOrNothing_updatePattern id text).bind_of_succeeds fun _ _ => ⟨_, rfl⟩
  | clear => intro s e he; cases he
  | setTimeZone zone => intro s e he; cases he
  | addListener l => intro s e he; cases he
  | removeListener l => intro s e he; cases he
  | setDaemon value => exact (allOrNothing_changeSetting _).bind_of_succeeds fun _ _ => ⟨_, rfl⟩
  | setMatchSecond value =>
    exact (allOrNothing_changeSetting _).bind_of_succeeds fun _ _ => ⟨_, rfl⟩
  | start => exact allOrNothing_start.bind_of_succeeds fun _ _ => ⟨_, rfl⟩
  | stop => exact allOrNothing_stop.bind_of_succeeds fun _ _ => ⟨_, rfl⟩
  | stopAndClear => exact allOrNothing_stop.bind_of_succeeds fun _ _ => ⟨_, rfl⟩

/-! ## Commands about the table -/

/-- An attempt does the same whether the timer runs or not, and changes nothing but the table and
the count of ids. -/
structure AboutTable {α : Type} (a : Attempt SchedulerError (Scheduler τ ι) α) : Prop where
  ignoresTimer : ∀ (s : Scheduler τ ι) (timer : Option Timer),
    a.result { s with timer } = a.result s ∧ a.after { s with timer } = { a.after s with timer }
  keeps : ∀ s, ∃ table generated, a.after s = { s with table, generated }

namespace AboutTable

theorem pure {α : Type} (x : α) :
    AboutTable (Pure.pure x : Attempt SchedulerError (Scheduler τ ι) α) :=
  ⟨fun _ _ => ⟨rfl, rfl⟩, fun s => ⟨s.table, s.generated, rfl⟩⟩

theorem bind {α β : Type} {a : Attempt SchedulerError (Scheduler τ ι) α}
    {f : α → Attempt SchedulerError (Scheduler τ ι) β} (ha : AboutTable a)
    (hf : ∀ x, AboutTable (f x)) : AboutTable (a >>= f) := by
  constructor
  · intro s timer
    obtain ⟨hresult, hafter⟩ := ha.ignoresTimer s timer
    rw [Attempt.result_bind, Attempt.after_bind, Attempt.result_bind, Attempt.after_bind, hresult,
      hafter]
    cases a.result s with
    | ok x => exact (hf x).ignoresTimer (a.after s) timer
    | error e => exact ⟨rfl, rfl⟩
  · intro s
    obtain ⟨table, generated, hafter⟩ := ha.keeps s
    rw [Attempt.after_bind, hafter]
    cases a.result s with
    | ok x => exact (hf x).keeps { s with table, generated }
    | error e => exact ⟨table, generated, rfl⟩

theorem parsed (text : String) :
    AboutTable (parsed text : Attempt SchedulerError (Scheduler τ ι) Pattern) :=
  ⟨fun s timer => by simp, fun s => ⟨s.table, s.generated, after_parsed s text⟩⟩

theorem onTable (change : Attempt TableError (Columns τ) Unit) :
    AboutTable (onTable change : Attempt SchedulerError (Scheduler τ ι) Unit) :=
  ⟨fun s timer => by simp, fun s => ⟨_, s.generated, after_onTable s change⟩⟩

theorem scheduleWithId (id : TaskId) (text : String) (task : τ) :
    AboutTable (scheduleWithId id text task : Attempt SchedulerError (Scheduler τ ι) Unit) :=
  (parsed text).bind fun p => onTable (Columns.add id p task)

/-- The count of ids may be read, on which the timer has no bearing. -/
theorem bind_generated {α : Type} {f : Nat → Attempt SchedulerError (Scheduler τ ι) α}
    (hf : ∀ n, AboutTable (f n)) : AboutTable (get >>= fun s => f s.generated) :=
  ⟨fun s => (hf s.generated).ignoresTimer s, fun s => (hf s.generated).keeps s⟩

theorem schedule (text : String) (task : τ) :
    AboutTable (schedule text task : Attempt SchedulerError (Scheduler τ ι) TaskId) :=
  have hcounted : AboutTable (modify fun s => { s with generated := s.generated + 1 } :
      Attempt SchedulerError (Scheduler τ ι) PUnit) :=
    ⟨fun _ _ => ⟨rfl, rfl⟩, fun s => ⟨s.table, s.generated + 1, rfl⟩⟩
  bind_generated fun n => (scheduleWithId (.generated (n + 1)) text task).bind fun _ =>
    hcounted.bind fun _ => pure (TaskId.generated (n + 1))

theorem updatePattern (id : TaskId) (text : String) :
    AboutTable (updatePattern id text : Attempt SchedulerError (Scheduler τ ι) Unit) :=
  (parsed text).bind fun p => onTable (Columns.updatePattern id p)

end AboutTable

end Scheduler

/-- The commands about the task table alone. -/
def Command.isAboutTable {τ ι : Type} : Command τ ι → Bool
  | .schedule .. | .scheduleWithId .. | .schedulePattern .. => true
  | .deschedule .. | .updatePattern .. | .clear => true
  | _ => false

namespace Scheduler

variable {τ ι : Type}

theorem aboutTable_perform [DecidableEq ι] {c : Command τ ι} (h : c.isAboutTable = true) :
    AboutTable (perform c) := by
  cases c with
  | schedule text task => exact (AboutTable.schedule text task).bind fun _ => .pure _
  | scheduleWithId id text task =>
    exact (AboutTable.scheduleWithId id text task).bind fun _ => .pure _
  | schedulePattern id p task =>
    exact (AboutTable.onTable (Columns.add id p task)).bind fun _ => .pure _
  | deschedule id => exact (AboutTable.onTable (Columns.remove id)).bind fun _ => .pure _
  | updatePattern id text => exact (AboutTable.updatePattern id text).bind fun _ => .pure _
  | clear => exact (AboutTable.onTable Columns.clear).bind fun _ => .pure _
  | _ => cases h

/-! ## The life cycle -/

/-- No other trouble with starting is mistaken for a second start. -/
theorem result_start_eq_alreadyStarted_iff (s : Scheduler τ ι) :
    start.result s = .error .alreadyStarted ↔ s.isStarted = true := by
  by_cases hs : s.isStarted
  · simp [result_start, hs]
  · rw [result_start, if_neg hs, checkOptions]
    split
    · simp [hs]
    · cases checkLimit s.options.limit <;> simp [hs]

section

variable [DecidableEq ι] (s : Scheduler τ ι)

theorem result_perform_start : (perform .start).result s =
    if s.isStarted then .error .alreadyStarted
    else (checkOptions s.options).map fun _ => .done := by
  rw [perform, bind_pure_comp, Attempt.result_map, result_start]
  split <;> rfl

theorem result_perform_stop :
    (perform .stop).result s = if s.isStarted then .ok .done else .error .notStarted := by
  rw [perform, bind_pure_comp, Attempt.result_map, result_stop]
  split <;> rfl

theorem result_perform_stopAndClear :
    (perform .stopAndClear).result s = if s.isStarted then .ok .done else .error .notStarted := by
  by_cases hs : s.isStarted
  · simp [perform, result_stop, hs]
    rfl
  · simp [perform, result_stop, hs]

theorem result_perform_setDaemon (value : Bool) : (perform (.setDaemon value)).result s =
    if s.isStarted then .error .alreadyStarted else .ok .done := by
  rw [perform, bind_pure_comp, Attempt.result_map, result_changeSetting]
  split <;> rfl

theorem result_perform_setMatchSecond (value : Bool) : (perform (.setMatchSecond value)).result s =
    if s.isStarted then .error .alreadyStarted else .ok .done := by
  rw [perform, bind_pure_comp, Attempt.result_map, result_changeSetting]
  split <;> rfl

end

/-- Whether a scheduler with some options is started after a command. -/
def startedAfter (o : ExecutionOptions) (started : Bool) : Command τ ι → Bool
  | .start => started || (checkOptions o).isOk
  | .stop | .stopAndClear => false
  | _ => started

theorem startedAfter_of_isAboutTable {o : ExecutionOptions} {started : Bool} {c : Command τ ι}
    (h : c.isAboutTable = true) : startedAfter o started c = started := by
  cases c with
  | start | stop | stopAndClear => cases h
  | _ => rfl

/-- Stopping in vain does not clear the table either, and has no timer to lose. -/
theorem after_perform_stopAndClear [DecidableEq ι] (s : Scheduler τ ι) :
    ∃ table, (perform .stopAndClear).after s = { s with table, timer := none } := by
  by_cases hs : s.isStarted
  · exact ⟨Columns.clear.after s.table, by simp [perform, result_stop, hs]⟩
  · exact ⟨s.table, by simp [perform, result_stop, hs]⟩

/-- The options of a scheduler and whether it is started, whose timer is that of its mode. -/
structure InLifeCycle (o : ExecutionOptions) (started : Bool) (s : Scheduler τ ι) : Prop where
  options : s.options = o
  isStarted : s.isStarted = started
  timer : ∀ t, s.timer = some t → t = Timer.ofMode s.matchSecond

namespace InLifeCycle

variable {o : ExecutionOptions} {started : Bool} {s : Scheduler τ ι}

theorem ofParts (settings : Settings) (zone : Zone) :
    InLifeCycle (.ofSettings settings) false (ofParts settings zone : Scheduler τ ι) :=
  ⟨rfl, rfl, fun _ ht => nomatch ht⟩

theorem start (h : InLifeCycle o started s) :
    InLifeCycle o (startedAfter o started (.start : Command τ ι)) (start.after s) := by
  rw [after_start, h.isStarted, h.options]
  cases started with
  | true => exact h
  | false =>
    cases ho : checkOptions o with
    | error e => simpa [startedAfter, ho, Except.isOk, Except.toBool] using h
    | ok x =>
      have hok : startedAfter o false (.start : Command τ ι) = true := by
        simp [startedAfter, ho, Except.isOk, Except.toBool]
      refine ⟨rfl, hok.symm, ?_⟩
      rintro t ⟨⟩
      rfl

variable [DecidableEq ι]

/-- Every command leads from one stage of the life cycle to the next. -/
theorem after_perform (h : InLifeCycle o started s) (c : Command τ ι) :
    InLifeCycle o (startedAfter o started c) ((perform c).after s) := by
  by_cases hc : c.isAboutTable
  · obtain ⟨table, generated, hafter⟩ := (aboutTable_perform hc).keeps s
    rw [hafter, startedAfter_of_isAboutTable hc]
    exact ⟨h.options, h.isStarted, h.timer⟩
  · cases c with
    | start =>
      rw [perform, bind_pure_comp, Attempt.after_map]
      exact h.start
    | stop =>
      rw [perform, bind_pure_comp, Attempt.after_map, after_stop]
      exact ⟨h.options, rfl, fun _ ht => nomatch ht⟩
    | stopAndClear =>
      obtain ⟨table, hafter⟩ := after_perform_stopAndClear s
      rw [hafter]
      exact ⟨h.options, rfl, fun _ ht => nomatch ht⟩
    | setDaemon value =>
      rw [perform, bind_pure_comp, Attempt.after_map, after_changeSetting]
      split
      · exact h
      · exact ⟨h.options, h.isStarted, h.timer⟩
    | setMatchSecond value =>
      rw [perform, bind_pure_comp, Attempt.after_map, after_changeSetting]
      split
      · exact h
      · -- There is no timer whose mode the setting could miss.
        rename_i hs
        refine ⟨h.options, h.isStarted, fun t ht => absurd ?_ hs⟩
        exact Option.isSome_iff_exists.2 ⟨t, ht⟩
    | setTimeZone zone => exact ⟨h.options, h.isStarted, h.timer⟩
    | addListener l => exact ⟨h.options, h.isStarted, h.timer⟩
    | removeListener l => exact ⟨h.options, h.isStarted, h.timer⟩
    | _ => exact absurd rfl hc

theorem afterAll_perform (history : List (Command τ ι)) (h : InLifeCycle o started s) :
    InLifeCycle o (history.foldl (startedAfter o) started)
      (Attempt.afterAll perform history s) := by
  induction history generalizing started s with
  | nil => exact h
  | cons c history ih => exact ih (h.after_perform c)

end InLifeCycle

/-- **A scheduler keeps to its life cycle.**  After any history of commands, refused ones among
them: what may only be done while it is stopped or started is refused otherwise, and commands about
the table do the same in both cases.  A text that is no pattern is refused before the table is asked
about the id.  A refused command changes nothing; starting and stopping change nothing but the
timer.  Whether the timer runs depends on the starts and stops alone, and a timer that runs is that
of the mode. -/
theorem commands_keep_to_lifeCycle [DecidableEq ι] (settings : Settings) (zone : Zone)
    (history : List (Command τ ι)) :
    let o := ExecutionOptions.ofSettings settings
    let s : Scheduler τ ι := Attempt.afterAll perform history (ofParts settings zone)
    (((perform .start).result s = .error .alreadyStarted ↔ s.isStarted = true) ∧
      (s.isStarted = false →
        (perform .start).result s = (checkOptions o).map fun _ => .done) ∧
      (∀ value, (perform (.setDaemon value)).result s =
        if s.isStarted then .error .alreadyStarted else .ok .done) ∧
      (∀ value, (perform (.setMatchSecond value)).result s =
        if s.isStarted then .error .alreadyStarted else .ok .done) ∧
      (perform .stop).result s = (if s.isStarted then .ok .done else .error .notStarted) ∧
      (perform .stopAndClear).result s =
        (if s.isStarted then .ok .done else .error .notStarted)) ∧
    (∀ c : Command τ ι, c.isAboutTable = true → ∀ timer,
      (perform c).result { s with timer } = (perform c).result s ∧
      (perform c).after { s with timer } = { (perform c).after s with timer }) ∧
    (∀ text e, Pattern.parse text = .error e → ∀ id,
      (∀ task, (perform (.scheduleWithId id text task)).result s = .error (.invalidPattern e)) ∧
      (perform (.updatePattern id text)).result s = .error (.invalidPattern e)) ∧
    (∀ c e, (perform c).result s = .error e → (perform c).after s = s) ∧
    ((∃ timer, (perform .start).after s = { s with timer }) ∧
      (perform .stop).after s = { s with timer := none }) ∧
    s.isStarted = history.foldl (startedAfter o) false ∧
    (s.isStarted = true ↔ ∃ t, s.timer = some t) ∧
    ∀ t, s.timer = some t →
      t.unit = (if s.matchSecond then 1000 else 60000) ∧ t.matchSecond = s.matchSecond := by
  intro o s
  have h : InLifeCycle o (history.foldl (startedAfter o) false) s :=
    .afterAll_perform history (.ofParts settings zone)
  have hstart : (perform .start).result s = .error .alreadyStarted ↔ s.isStarted = true := by
    rw [← result_start_eq_alreadyStarted_iff s, perform, bind_pure_comp, Attempt.result_map]
    cases start.result s <;> simp [Except.map]
  refine ⟨⟨hstart, fun hs => ?_, result_perform_setDaemon s, result_perform_setMatchSecond s,
    result_perform_stop s, result_perform_stopAndClear s⟩,
    fun c hc => (aboutTable_perform hc).ignoresTimer s, fun text e he id => ⟨fun task => ?_, ?_⟩,
    fun c e he => allOrNothing_perform c he, ⟨?_, ?_⟩, h.isStarted, Option.isSome_iff_exists,
    fun t ht => ?_⟩
  · rw [result_perform_start, hs, h.options]
    rfl
  · simp [perform, scheduleWithId, he]
    rfl
  · simp [perform, updatePattern, he]
    rfl
  · rw [perform, bind_pure_comp, Attempt.after_map, after_start]
    split
    · exact ⟨s.timer, rfl⟩
    · split
      · exact ⟨_, rfl⟩
      · exact ⟨s.timer, rfl⟩
  · rw [perform, bind_pure_comp, Attempt.after_map, after_stop]
  · rw [h.timer t ht]
    cases s.matchSecond <;> exact ⟨rfl, rfl⟩

/-- The mode is changed in vain while the timer runs. -/
example :
    (Attempt.afterAll perform [.setMatchSecond true, .start, .setMatchSecond false, .start]
      (new (.fixed 0) : Scheduler Unit Unit)).timer = some ⟨1000, true⟩ := by decide

end Scheduler

end Crontab
