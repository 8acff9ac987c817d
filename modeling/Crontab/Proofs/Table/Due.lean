import Crontab.Dispatch
import Crontab.Proofs.Execution.Reports
import Crontab.Proofs.Table.Columns

/-!
# The tasks due at an instant

The clocks are read once for all tasks, and the ids and tasks of the accepting patterns are then
looked up place by place.  This gives the same tasks as asking the pattern of each task on its own,
and dispatching them executes each of them once.

* `Table.dueEach`, `Table.due_eq_dueEach` — the due tasks when each pattern is asked on its own, and
  that reading the clocks once for all of them makes no difference.
* `Table.mem_dueEach`, `Table.ids_dueEach_sublist` — which tasks these are, and their order.
* `Table.inTurn_dispatch`, `Table.dispatched_of_ofTick` — what a tick executes, one after another and
  side by side.
* `Columns.due_rows_dispatched_once` — the same for the columns after any history of changes.
-/

set_option autoImplicit false

namespace Crontab

variable {τ ι σ : Type}

namespace Table

variable {t : Table τ} {zone : Zone} {millis : Int} {matchSecond : Bool}

/-- The tasks whose own patterns accept an instant, in order of insertion. -/
def dueEach (t : Table τ) (zone : Zone) (millis : Int) (matchSecond : Bool) : List (TaskId × τ) :=
  (t.entries.filter fun e => e.pattern.matchesAt zone millis matchSecond).map fun e => (e.id, e.task)

theorem due_eq_dueEach (t : Table τ) (zone : Zone) (millis : Int) (matchSecond : Bool) :
    t.due zone millis matchSecond = t.dueEach zone millis matchSecond := by
  unfold due dueEach Pattern.matchesAt
  cases zone.moment? millis with
  | none => simp
  | some m => rfl

theorem mem_dueEach {id : TaskId} {task : τ} :
    (id, task) ∈ t.dueEach zone millis matchSecond ↔
      ∃ e ∈ t.entries, e.id = id ∧ e.task = task ∧
        e.pattern.matchesAt zone millis matchSecond = true := by
  simp only [dueEach, List.mem_map, List.mem_filter, Prod.mk.injEq]
  constructor
  · rintro ⟨e, ⟨he, hmatch⟩, hid, htask⟩
    exact ⟨e, he, hid, htask, hmatch⟩
  · rintro ⟨e, he, hid, htask, hmatch⟩
    exact ⟨e, ⟨he, hmatch⟩, hid, htask⟩

/-- The ids of the due tasks keep their order. -/
theorem ids_dueEach_sublist (t : Table τ) (zone : Zone) (millis : Int) (matchSecond : Bool) :
    ((t.dueEach zone millis matchSecond).map (·.1)).Sublist t.ids := by
  rw [dueEach, List.map_map]
  exact List.filter_sublist.map _

section

variable [DecidableEq ι] {b : Behaviour ι σ} {logFailures : Bool} {registry : Registry ι} {state : σ}

/-- Dispatching a tick executes the due tasks, one after another. -/
theorem inTurn_dispatch (act : τ → TaskRun ι) :
    (t.dispatch zone millis matchSecond b act logFailures registry state).InTurn b logFailures
      ((t.dueEach zone millis matchSecond).map fun d => (d.1, act d.2)) registry state := by
  rw [Execution.inTurn_iff, dispatch, due_eq_dueEach]

/-- Side by side as well, the due tasks are dispatched in their order and executed, whatever the
listeners do. -/
theorem dispatched_of_ofTick {outcome : TaskId → τ → Outcome} {steps : List Overlap.Step}
    {s : Overlap ι σ} (h : runSteps (Overlap.step b logFailures)
      (.ofTick t zone millis matchSecond outcome registry state) steps = some s) :
    let jobs := (t.dueEach zone millis matchSecond).map fun d =>
      (d.1, TaskRun.ofOutcome (outcome d.1 d.2))
    s.assigned = jobs ∧ (s.Finished → s.executions.map (fun e => (e.task, e.run)) = jobs) ∧
      (¬ s.Finished → ∃ k s', s.step b logFailures k = some s') := by
  intro jobs
  have hassigned : s.assigned = jobs := by
    rw [Overlap.assigned_of_runSteps h]
    simp only [jobs, ← due_eq_dueEach]
    rfl
  exact ⟨hassigned, fun hf => (Overlap.map_executions_of_finished hf).trans hassigned,
    s.exists_step⟩

end

end Table

namespace Columns

variable {c : Columns τ} {t : Table τ}

/-- A row of the columns is a task of the table with its pattern. -/
theorem Holds.row_iff (h : c.Holds t) {id : TaskId} {pattern : Pattern} {task : τ} :
    (c.pattern? id = some pattern ∧ c.task? id = some task) ↔ ⟨id, pattern, task⟩ ∈ t.entries := by
  constructor
  · rw [h.columns, pattern?_ofTable, task?_ofTable, Table.pattern?, Table.task?]
    cases hfind : t.find? id with
    | none => simp
    | some e =>
      simp only [Option.map_some, Option.some.injEq]
      rintro ⟨rfl, rfl⟩
      have hid : e.id = id := by simpa using List.find?_some hfind
      rw [← hid]
      exact List.mem_of_find?_eq_some hfind
  · exact fun he => h.find_of_mem he

/-- **The rows that are due, each dispatched once.**  After any history of changes, the tasks due at
an instant, whether it has a date or not, are those whose own patterns accept it, with their own ids,
in order of insertion and each once.  Dispatching the tick executes exactly these, each id with its
own task.  One after another, each is dispatched when the one before it has ended.  Side by side, and
whatever their listeners do, those dispatched so far are at every moment the first of these in their
order; what has not finished can go on, and in the end every one has been dispatched, once. -/
theorem due_rows_dispatched_once [DecidableEq ι] (history : List (TableChange τ)) (zone : Zone)
    (millis : Int) (matchSecond : Bool) :
    let c := Attempt.afterAll Columns.change history Columns.empty
    let t := history.foldl Table.afterChange Table.empty
    let rows := t.dueEach zone millis matchSecond
    c.due zone millis matchSecond = rows ∧
    (∀ id task, (id, task) ∈ rows ↔ ∃ pattern, c.pattern? id = some pattern ∧
      c.task? id = some task ∧ pattern.matchesAt zone millis matchSecond = true) ∧
    (rows.map (·.1)).Sublist c.ids ∧ (rows.map (·.1)).Nodup ∧
    (∀ (b : Behaviour ι σ) (act : τ → TaskRun ι) (logFailures : Bool) (registry : Registry ι)
      (state : σ),
      (c.toTable.dispatch zone millis matchSecond b act logFailures registry state).InTurn b
        logFailures (rows.map fun d => (d.1, act d.2)) registry state) ∧
    ∀ (b : Behaviour ι σ) (logFailures : Bool) (outcome : TaskId → τ → Outcome)
      (registry : Registry ι) (state : σ) (steps : List Overlap.Step) (s : Overlap ι σ),
      runSteps (Overlap.step b logFailures)
        (.ofTick c.toTable zone millis matchSecond outcome registry state) steps = some s →
      let jobs := rows.map fun d => (d.1, TaskRun.ofOutcome (outcome d.1 d.2))
      s.assigned = jobs ∧ (s.Finished → s.executions.map (fun e => (e.task, e.run)) = jobs) ∧
        (¬ s.Finished → ∃ k s', s.step b logFailures k = some s') := by
  intro c t rows
  have h : c.Holds t := holds_afterAll history Holds.empty
  have htable : c.toTable = t := by rw [h.columns, toTable_ofTable]
  have hids : c.ids = t.ids := by rw [h.columns, ids_ofTable]
  have hsublist : (rows.map (·.1)).Sublist t.ids := t.ids_dueEach_sublist zone millis matchSecond
  refine ⟨?_, fun id task => ?_, hids ▸ hsublist, hsublist.nodup h.nodup, ?_, ?_⟩
  · rw [h.columns, due_ofTable, t.due_eq_dueEach]
  · rw [Table.mem_dueEach]
    constructor
    · rintro ⟨⟨_, pattern, _⟩, he, rfl, rfl, hmatch⟩
      obtain ⟨hpattern, htask⟩ := h.row_iff.2 he
      exact ⟨pattern, hpattern, htask, hmatch⟩
    · rintro ⟨pattern, hpattern, htask, hmatch⟩
      exact ⟨_, h.row_iff.1 ⟨hpattern, htask⟩, rfl, rfl, hmatch⟩
  · rw [htable]
    exact fun b act logFailures registry state => Table.inTurn_dispatch act
  · rw [htable]
    exact fun b logFailures outcome registry state steps s hrun => Table.dispatched_of_ofTick hrun

/-- An addition is refused, a task of noon becomes one of every minute, and another one stays at noon.
At midnight two are due, and both are dispatched and end although a listener panics at each start; at
an instant without a date none is. -/
theorem due_rows_dispatched_at_midnight :
    let minutely : Pattern := ⟨"* * * * *", [⟨.always, .always, .always, .always, .always, .always⟩]⟩
    let noon : Pattern := ⟨"0 12 * * *", [⟨.always, .values (ValueSet.ofList [0]),
      .values (ValueSet.ofList [12]), .always, .always, .always⟩]⟩
    let c := Attempt.afterAll Columns.change
      [.add (.named "a") minutely 1, .add (.named "b") noon 2, .add (.named "a") noon 3,
        .add (.named "c") noon 4, .updatePattern (.named "b") minutely] Columns.empty
    c.due (.localTime (.fixed 0)) 0 false = [(.named "a", 1), (.named "b", 2)] ∧
      c.due (.localTime (.fixed 0)) (Zone.lastInstant + 1) false = [] ∧
      (c.toTable.dispatch (.localTime (.fixed 0)) 0 false Recorder.behaviour
        (fun _ => .ofOutcome .succeeded) true ⟨[.named "x"]⟩ ⟨[("x", .panicOnStart)], []⟩).events =
        [.call ⟨.named "x", .named "a", .started⟩, .call ⟨.named "x", .named "b", .started⟩] ∧
      ∃ s : Overlap Recorder RecorderCast,
        runSteps (Overlap.step Recorder.behaviour true)
          (.ofTick c.toTable (.localTime (.fixed 0)) 0 false (fun _ _ => .succeeded) ⟨[.named "x"]⟩
            ⟨[("x", .panicOnStart)], []⟩)
          [.dispatch, .advance 0, .dispatch, .advance 1, .advance 1, .advance 0] = some s ∧
        s.Finished ∧
        s.assigned = [(.named "a", ⟨[], .succeeded⟩), (.named "b", ⟨[], .succeeded⟩)] ∧
        s.executions.map (fun e => (e.task, e.run)) =
          [(.named "a", ⟨[], .succeeded⟩), (.named "b", ⟨[], .succeeded⟩)] := by
  intro minutely noon c
  have hrows := due_rows_dispatched_once (ι := Recorder) (σ := RecorderCast)
    [.add (.named "a") minutely 1, .add (.named "b") noon 2, .add (.named "a") noon 3,
      .add (.named "c") noon 4, .updatePattern (.named "b") minutely] (.localTime (.fixed 0))
  have hends : (runSteps (Overlap.step Recorder.behaviour true)
      (.ofTick c.toTable (.localTime (.fixed 0)) 0 false (fun _ _ => .succeeded) ⟨[.named "x"]⟩
        ⟨[("x", .panicOnStart)], []⟩)
      [.dispatch, .advance 0, .dispatch, .advance 1, .advance 1, .advance 0]).any
        (fun s => decide s.Finished) = true := by
    decide +kernel
  obtain ⟨s, hs, hfinished⟩ := (Option.any_eq_true _ _).1 hends
  have hf : s.Finished := of_decide_eq_true hfinished
  obtain ⟨-, -, -, -, -, hside⟩ := hrows 0 false
  obtain ⟨hassigned, hexecutions, -⟩ := hside _ _ _ _ _ _ s hs
  exact ⟨(hrows 0 false).1.trans (by decide +kernel),
    (hrows (Zone.lastInstant + 1) false).1.trans (by decide +kernel), by decide +kernel, s, hs, hf,
    hassigned.trans (by decide +kernel), (hexecutions hf).trans (by decide +kernel)⟩

end Columns

end Crontab
