import Crontab.Proofs.Calendar.Period
import Crontab.Proofs.Table.Due
import Crontab.Scheduler

/-!
# Every due task once in a period

A timer that wakes up on time, if late, executes for each boundary exactly what is due at it.

* `Table.due_of_period` — the tasks due throughout a period.
* `Run.OnTime`, `period_of_onTime` — a run whose readings keep near the boundaries, whose ticks lie
  in consecutive periods.
* `timerRun`, `dispatch_once_per_period` — the run of a scheduler's timer; its ticks dispatch what is
  due at the consecutive boundaries after the first reading.
-/

set_option autoImplicit false

namespace Crontab

open Tick

/-! ## Tasks due at an instant -/

namespace Table

variable {τ : Type}

/-- Throughout a period of a timer the same tasks are due. -/
theorem due_of_period (t : Table τ) (zone : Zone) {matchSecond : Bool} {millis q : Int}
    (h : period millis (Timer.ofMode matchSecond).unit = q)
    (hz : matchSecond = false → zone.KeepsMinutes (q * minuteUnit)) :
    t.due zone millis matchSecond =
      t.dueEach zone (q * (Timer.ofMode matchSecond).unit) matchSecond := by
  rw [due_eq_dueEach, dueEach, dueEach]
  congr 2
  funext e
  cases matchSecond with
  | true => exact e.pattern.matchesAt_of_second zone true h
  | false => exact e.pattern.matchesAt_of_minute h (hz rfl)

end Table

/-! ## Runs that keep near the boundaries -/

namespace Tick

variable {unit : Int} {clock : Clock}

/-- Every turn of a run that begins in state `s` takes its first reading after the beginning of the
period before that of the previous tick, and its second one, not before the first, within the
period that it sleeps for. -/
def Run.OnTime (unit : Int) (clock : Clock) (s : LoopState) (r : Run) : Prop :=
  ∀ k t, r.ticks[k]? = some t →
    nextBoundary (r.previous s.previous k) unit - 2 * unit < clock (s.reads + 2 * k) ∧
      clock (s.reads + 2 * k) ≤ clock (s.reads + 2 * k + 1) ∧
      clock (s.reads + 2 * k + 1) < nextBoundary (r.previous s.previous k) unit + unit

/-- A turn on time ticks in the period after that of the previous tick, whether it slept or found
itself late. -/
theorem period_of_turn (hu : 0 < unit) {s next : LoopState} {t : Firing} {jump : Option Int}
    (h : turn unit clock s = .tick t jump next)
    (hearly : nextBoundary s.previous unit - 2 * unit < clock s.reads)
    (hsteady : clock s.reads ≤ clock (s.reads + 1))
    (hlate : clock (s.reads + 1) < nextBoundary s.previous unit + unit) :
    period t.time unit = period s.previous unit + 1 := by
  rw [period_eq_succ_iff hu]
  rcases turn_cases h with ⟨-, -, rfl, -⟩ | ⟨hv, -, rfl, -⟩
  · have := Int.le_max_right (clock (s.reads + 1)) (nextBoundary s.previous unit)
    refine ⟨this, Int.max_lt.2 ⟨hlate, by omega⟩⟩
  · -- The sleep was refused because the boundary had passed.
    rw [Bool.eq_false_iff, ne_eq, validSleep_iff] at hv
    simp only [LoopState.sleep] at hv ⊢
    omega

/-- The ticks of a run on time lie in consecutive periods. -/
theorem period_of_onTime (hu : 0 < unit) {e : Shutdown} {turns n : Nat} {s : LoopState}
    (hr : (run unit clock e turns n s).OnTime unit clock s) (k : Nat) (t : Firing)
    (ht : (run unit clock e turns n s).ticks[k]? = some t) :
    period t.time unit = period s.previous unit + 1 + k := by
  induction k generalizing t with
  | zero =>
    obtain ⟨receiver, jump, next, hturn⟩ := turn_of_tick ht
    obtain ⟨h1, h2, h3⟩ := hr 0 t ht
    rw [period_of_turn hu hturn h1 h2 h3, Run.previous_zero]
    simp
  | succ k ih =>
    obtain ⟨receiver, jump, next, hturn⟩ := turn_of_tick ht
    obtain ⟨h1, h2, h3⟩ := hr (k + 1) t ht
    obtain ⟨hk, -⟩ := List.getElem?_eq_some_iff.1 ht
    have ht' := List.getElem?_eq_getElem (Nat.lt_of_succ_lt hk)
    rw [period_of_turn hu hturn h1 h2 h3, Run.previous_succ ht', ih _ ht']
    push_cast
    omega

end Tick

/-! ## The timer of a scheduler -/

theorem Timer.unit_pos (matchSecond : Bool) : 0 < (Timer.ofMode matchSecond).unit := by
  cases matchSecond <;> decide

/-- At most `turns` turns of a scheduler's timer. -/
def timerRun (matchSecond : Bool) (clock : Clock) (e : Shutdown) (turns : Nat) : Run :=
  run (Timer.ofMode matchSecond).unit clock e turns 0 (start clock e)

/-- Boundary number `k` after the first reading of a timer's clock. -/
def timerBoundary (matchSecond : Bool) (clock : Clock) (k : Nat) : Int :=
  (period (clock 0) (Timer.ofMode matchSecond).unit + 1 + k) * (Timer.ofMode matchSecond).unit

/-- **Exactly once in every period.**  On a clock that keeps near the boundaries a timer's ticks have
the tasks due, one by one, that are due at the consecutive boundaries after its first reading.

Dispatching a tick executes these and no others, in order of insertion and each once.  One after
another, each is dispatched when the one before it has ended.  Side by side, and whatever their
listeners do, those dispatched so far are at every moment the first of these; what has not finished
can go on, and in the end every one has been dispatched.

A timer that nobody stops ticks at every turn. -/
theorem dispatch_once_per_period {τ ι σ : Type} [DecidableEq ι] (table : Table τ) (zone : Zone)
    (matchSecond : Bool) (clock : Clock) (e : Shutdown) (turns : Nat)
    (hontime : (timerRun matchSecond clock e turns).OnTime (Timer.ofMode matchSecond).unit clock
      (start clock e))
    (hzone : matchSecond = false → ∀ k < (timerRun matchSecond clock e turns).ticks.length,
      zone.KeepsMinutes (timerBoundary matchSecond clock k)) :
    ((timerRun matchSecond clock e turns).ticks.map fun t => table.due zone t.time matchSecond) =
      ((List.range (timerRun matchSecond clock e turns).ticks.length).map fun k =>
        table.dueEach zone (timerBoundary matchSecond clock k) matchSecond) ∧
    (∀ k t, (timerRun matchSecond clock e turns).ticks[k]? = some t →
      let rows := table.dueEach zone (timerBoundary matchSecond clock k) matchSecond
      (∀ (b : Behaviour ι σ) (act : τ → TaskRun ι) (logFailures : Bool) (registry : Registry ι)
        (state : σ),
        (table.dispatch zone t.time matchSecond b act logFailures registry state).InTurn b
          logFailures (rows.map fun d => (d.1, act d.2)) registry state) ∧
      ∀ (b : Behaviour ι σ) (logFailures : Bool) (outcome : TaskId → τ → Outcome)
        (registry : Registry ι) (state : σ) (steps : List Overlap.Step) (s : Overlap ι σ),
        runSteps (Overlap.step b logFailures)
          (.ofTick table zone t.time matchSecond outcome registry state) steps = some s →
        let jobs := rows.map fun d => (d.1, TaskRun.ofOutcome (outcome d.1 d.2))
        s.assigned = jobs ∧ (s.Finished → s.executions.map (fun e => (e.task, e.run)) = jobs) ∧
          (¬ s.Finished → ∃ j s', s.step b logFailures j = some s')) ∧
    (turns ≤ e.after → (timerRun matchSecond clock e turns).ticks.length = turns) := by
  have hdue : ∀ k t, (timerRun matchSecond clock e turns).ticks[k]? = some t →
      table.due zone t.time matchSecond =
        table.dueEach zone (timerBoundary matchSecond clock k) matchSecond := by
    intro k t ht
    refine table.due_of_period zone (period_of_onTime (Timer.unit_pos _) hontime k t ht) ?_
    rintro rfl
    exact hzone rfl k (List.getElem?_eq_some_iff.1 ht).1
  refine ⟨?_, ?_, length_ticks_start⟩
  · refine List.ext_getElem (by simp) fun k hk hk' => ?_
    rw [List.length_map] at hk
    simpa using hdue k _ (List.getElem?_eq_getElem hk)
  · intro k t ht rows
    have hrows : table.dueEach zone t.time matchSecond = rows :=
      (table.due_eq_dueEach zone t.time matchSecond).symm.trans (hdue k t ht)
    rw [← hrows]
    exact ⟨fun b act logFailures registry state => Table.inTurn_dispatch act,
      fun b logFailures outcome registry state steps s => Table.dispatched_of_ofTick⟩

/-- Before 1970, with a tick late by a second, one that wakes up early, and one in the last
millisecond of its minute: besides the task of every minute, the task of minutes 58 and 0 is
dispatched for 23:58 and 00:00, and not for 23:59.  In the last tick the two executions take turns. -/
theorem dispatch_once_per_period_before_epoch :
    let table : Table Unit :=
      ⟨[⟨.named "even", ⟨"58,0 * * * *",
          [⟨.always, .values (ValueSet.ofList [58, 0]), .always, .always, .always, .always⟩]⟩, ()⟩,
        ⟨.named "each", ⟨"* * * * *",
          [⟨.always, .always, .always, .always, .always, .always⟩]⟩, ()⟩]⟩
    let clock := Clock.ofScript [-150000, -150000, -119000, -118000, -60050, -60000, 59999]
    let ticks := (timerRun false clock ⟨9, true⟩ 3).ticks
    let seen (id : String) : List (Event Recorder) :=
      [.call ⟨.named "x", .named id, .started⟩, .ran (.named id),
        .call ⟨.named "x", .named id, .succeeded⟩]
    ticks.map (·.time) = [-119000, -60000, 59999] ∧
      (ticks.map fun t => table.due (.localTime (.fixed 0)) t.time false) =
        [[(.named "even", ()), (.named "each", ())], [(.named "each", ())],
          [(.named "even", ()), (.named "each", ())]] ∧
      (ticks.map fun t => (table.dispatch (.localTime (.fixed 0)) t.time false Recorder.behaviour
          (fun _ => .ofOutcome .succeeded) true ⟨[.named "x"]⟩ .empty).events) =
        [seen "even" ++ seen "each", seen "each", seen "even" ++ seen "each"] ∧
      ∃ s : Overlap Recorder RecorderCast,
        runSteps (Overlap.step Recorder.behaviour true)
          (.ofTick table (.localTime (.fixed 0)) 59999 false (fun _ _ => .succeeded)
            ⟨[.named "x"]⟩ .empty)
          ([.dispatch, .dispatch] ++ (List.replicate 6 [.advance 1, .advance 0]).flatten) =
            some s ∧
        s.Finished ∧ s.executions.map (·.task) = [.named "even", .named "each"] := by
  intro table clock ticks seen
  have hontime : (timerRun false clock ⟨9, true⟩ 3).OnTime minuteUnit clock
      (start clock ⟨9, true⟩) := by
    intro k t ht
    match k with
    | 0 | 1 | 2 => cases ht; decide
    | k + 3 => cases ht
  have hzone : ∀ k, (Zone.localTime (.fixed 0)).KeepsMinutes (timerBoundary false clock k) :=
    fun k => ⟨fun _ _ _ => rfl, rfl⟩
  obtain ⟨hdue, hdispatched, -⟩ := dispatch_once_per_period (ι := Recorder) (σ := RecorderCast)
    table (.localTime (.fixed 0)) false clock ⟨9, true⟩ 3 hontime fun _ k _ => hzone k
  have hends : (runSteps (Overlap.step Recorder.behaviour true)
      (.ofTick table (.localTime (.fixed 0)) 59999 false (fun _ _ => .succeeded) ⟨[.named "x"]⟩
        .empty)
      ([.dispatch, .dispatch] ++ (List.replicate 6 [.advance 1, .advance 0]).flatten)).any
        (fun s => decide s.Finished) = true := by
    decide +kernel
  obtain ⟨s, hrun, hs⟩ := (Option.any_eq_true _ _).1 hends
  have hf : s.Finished := of_decide_eq_true hs
  refine ⟨by decide, hdue.trans (by decide), by decide +kernel, s, hrun, hf, ?_⟩
  obtain ⟨-, hside⟩ := hdispatched 2 ⟨59999, 60000⟩ (by decide)
  have hjobs := (hside _ _ _ _ _ _ s hrun).2.1 hf
  calc s.executions.map (·.task)
      = (s.executions.map fun e => (e.task, e.run)).map (·.1) := by rw [List.map_map]; rfl
    _ = [.named "even", .named "each"] := by
        rw [hjobs]
        decide +kernel

end Crontab
