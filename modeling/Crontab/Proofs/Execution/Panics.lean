import Crontab.Proofs.Execution.Reports
import Mathlib.Data.List.TakeWhile

/-!
# Panics of listeners

Only the run of a task is guarded against panics.  A listener's panic ends the round of notification
in which it comes, and with it the execution: the listeners further down the list are not told, and a
panic at the start keeps the task from running.

* `reactions`, `Returns`, `upToPanic` — what the listeners of a list do when all of them are told, and
  how far a round gets.
* `notifyEach_eq` — a round of notification tells the listeners up to the first panic.
* `execute_up_to_panic` — an execution runs its task once if no listener panics at the start, and
  otherwise not at all.
* `panicking_listener_starves_others` — a task and a listener that miss out.
-/

set_option autoImplicit false

namespace Crontab

variable {ι σ α : Type}

/-- What the listeners of a list do when all of them are told, one after another. -/
def reactions (b : Behaviour ι σ) (task : TaskId) (notice : Notice) :
    List ι → σ → List (Reaction ι σ)
  | [], _ => []
  | l :: ls, state =>
    let reaction := b state l task notice
    reaction :: reactions b task notice ls reaction.state

/-- Whether no reaction ends in a panic. -/
def Returns (rs : List (Reaction ι σ)) : Prop := ∀ r ∈ rs, r.panic = none

/-- What stands in a list up to the place of the first reaction that ends in a panic, which is
included. -/
def upToPanic (rs : List (Reaction ι σ)) (l : List α) : List α :=
  l.take ((rs.takeWhile fun r => r.panic.isNone).length + 1)

/-! ## How far a round gets -/

section

variable {r : Reaction ι σ} {rs : List (Reaction ι σ)} {x : α} {l : List α}

theorem upToPanic_cons_of_panic {p : Payload} (h : r.panic = some p) :
    upToPanic (r :: rs) (x :: l) = [x] := by
  simp [upToPanic, h]

theorem upToPanic_cons_of_returns (h : r.panic = none) :
    upToPanic (r :: rs) (x :: l) = x :: upToPanic rs l := by
  simp [upToPanic, h]

/-- Without a panic a round gets to the end. -/
theorem upToPanic_of_returns (h : Returns rs) (hlen : l.length ≤ rs.length) :
    upToPanic rs l = l := by
  have hall : rs.takeWhile (fun r => r.panic.isNone) = rs := by
    rw [List.takeWhile_eq_self_iff]
    intro r hr
    simp [h r hr]
  rw [upToPanic, hall, List.take_of_length_le (by omega)]

end

theorem length_reactions (b : Behaviour ι σ) (task : TaskId) (notice : Notice) (ls : List ι)
    (state : σ) : (reactions b task notice ls state).length = ls.length := by
  induction ls generalizing state with
  | nil => rfl
  | cons l ls ih => rw [reactions, List.length_cons, List.length_cons, ih]

/-! ## Rounds and executions -/

variable [DecidableEq ι]

/-- **A round of notification** tells the listeners up to the first one that panics.  What these do
to the registry and to the listeners' world stays done, the panic's own listener included. -/
theorem notifyEach_eq (b : Behaviour ι σ) (task : TaskId) (notice : Notice) (ls : List ι)
    (registry : Registry ι) (state : σ) :
    notifyEach b task notice ls registry state =
      let rs := reactions b task notice ls state
      { calls := (upToPanic rs ls).map fun l => ⟨l, task, notice⟩
        registry := registry.applyAll ((upToPanic rs rs).flatMap (·.changes))
        state := (upToPanic rs rs).foldl (fun _ r => r.state) state
        panic := rs.findSome? (·.panic) } := by
  induction ls generalizing registry state with
  | nil => rfl
  | cons l ls ih =>
    unfold notifyEach
    simp only [reactions]
    cases hp : (b state l task notice).panic with
    | some p =>
      simp only [upToPanic_cons_of_panic hp, List.findSome?_cons, hp]
      simp
    | none =>
      simp only [upToPanic_cons_of_returns hp, List.findSome?_cons, hp, ih]
      simp [Registry.applyAll]

section

variable {b : Behaviour ι σ} {task : TaskId} {notice : Notice} {registry : Registry ι} {state : σ}

theorem calls_notify :
    (notify b task notice registry state).calls.map Event.call =
      calls task notice
        (upToPanic (reactions b task notice registry.listeners state) registry.listeners) := by
  rw [notify, notifyEach_eq, calls, List.map_map]
  rfl

theorem panic_notify :
    (notify b task notice registry state).panic =
      (reactions b task notice registry.listeners state).findSome? (·.panic) := by
  rw [notify, notifyEach_eq]

/-- A round without a panic leaves behind what all listeners do. -/
theorem after_notify_of_returns
    (h : Returns (reactions b task notice registry.listeners state)) :
    (notify b task notice registry state).registry = registry.applyAll
        ((reactions b task notice registry.listeners state).flatMap (·.changes)) ∧
      (notify b task notice registry state).state =
        (reactions b task notice registry.listeners state).foldl (fun _ r => r.state) state := by
  simp only [notify, notifyEach_eq, upToPanic_of_returns h (Nat.le_refl _), and_self]

end

section

variable {rs : List (Reaction ι σ)}

omit [DecidableEq ι]

theorem panicWarning_of_returns (h : Returns rs) : panicWarning (rs.findSome? (·.panic)) = [] := by
  rw [List.findSome?_eq_none_iff.2 h]
  rfl

theorem panicWarning_of_not_returns (h : ¬ Returns rs) :
    panicWarning (rs.findSome? (·.panic)) = [.endedAbnormally] := by
  cases hp : rs.findSome? (·.panic) with
  | none => exact absurd (List.findSome?_eq_none_iff.1 hp) h
  | some p => rfl

end

theorem count_ran_calls (task t : TaskId) (notice : Notice) (ls : List ι) :
    (calls t notice ls).count (.ran task) = 0 := by
  simp [calls, List.count_eq_zero]

/-- **An execution gets as far as its listeners let it.**  If no listener panics when it is told of
the start, all of them are told, the task runs exactly once, however it ends, and the listeners
registered by then are told of its outcome up to the first one that panics.  Otherwise the listeners
are told of the start up to the first one that panics, the task does not run, and nobody is told of
an outcome.  A panic leaves a warning behind. -/
theorem execute_up_to_panic (b : Behaviour ι σ) (logFailures : Bool) (task : TaskId)
    (run : TaskRun ι) (registry : Registry ι) (state : σ) :
    let starting := reactions b task .started registry.listeners state
    let atEnd := (registry.applyAll (starting.flatMap (·.changes))).applyAll run.changes
    let reporting := reactions b task run.outcome.report atEnd.listeners
      (starting.foldl (fun _ r => r.state) state)
    let x := execute b logFailures task run registry state
    (Returns starting →
      x.events = calls task .started registry.listeners ++
        .ran task :: calls task run.outcome.report (upToPanic reporting atEnd.listeners) ∧
      x.events.count (.ran task) = 1 ∧
      (Returns reporting →
        x.events = calls task .started registry.listeners ++
          .ran task :: calls task run.outcome.report atEnd.listeners ∧
        x.warnings = run.outcome.warnings task logFailures) ∧
      (¬ Returns reporting →
        x.warnings = run.outcome.warnings task logFailures ++ [.endedAbnormally])) ∧
    (¬ Returns starting →
      x.events = calls task .started (upToPanic starting registry.listeners) ∧
      x.events.count (.ran task) = 0 ∧ x.warnings = [.endedAbnormally]) := by
  intro starting atEnd reporting x
  have hfirst : (notify b task .started registry state).panic = starting.findSome? (·.panic) :=
    panic_notify
  constructor
  · intro hstart
    have hnone : (notify b task .started registry state).panic = none := by
      rw [hfirst, List.findSome?_eq_none_iff.2 hstart]
    obtain ⟨hregistry, hstate⟩ := after_notify_of_returns hstart
    have hall : upToPanic starting registry.listeners = registry.listeners :=
      upToPanic_of_returns hstart (length_reactions _ _ _ _ _).ge
    have hevents : x.events = calls task .started registry.listeners ++
        .ran task :: calls task run.outcome.report (upToPanic reporting atEnd.listeners) := by
      simp only [x, execute, hnone, hregistry, hstate, calls_notify, Outcome.notice_eq_report]
      rw [hall]
    have hwarnings : x.warnings = run.outcome.warnings task logFailures ++
        panicWarning (reporting.findSome? (·.panic)) := by
      simp only [x, execute, hnone, hregistry, hstate, panic_notify, Outcome.notice_eq_report]
      rfl
    refine ⟨hevents, ?_, fun hreport => ⟨?_, ?_⟩, fun hreport => ?_⟩
    · simp [hevents, count_ran_calls]
    · rw [hevents, upToPanic_of_returns hreport (length_reactions _ _ _ _ _).ge]
    · rw [hwarnings, panicWarning_of_returns hreport, List.append_nil]
    · rw [hwarnings, panicWarning_of_not_returns hreport]
  · intro hstart
    obtain ⟨p, hp⟩ : ∃ p, (notify b task .started registry state).panic = some p := by
      rw [← Option.ne_none_iff_exists', hfirst, ne_eq, List.findSome?_eq_none_iff]
      exact hstart
    have hevents : x.events = calls task .started (upToPanic starting registry.listeners) := by
      simp only [x, execute, hp, calls_notify]
      rfl
    refine ⟨hevents, ?_, ?_⟩
    · rw [hevents, count_ran_calls]
    · simp only [x, execute, hp]
      rfl

/-- Of three listeners the second one panics at success: all hear of the start, and two of the
success. -/
theorem execute_up_to_panic_at_success :
    let registry : Registry Recorder := ⟨[.named "P", .named "K", .named "R"]⟩
    let cast : RecorderCast := ⟨[("K", .panicOnSuccess)], []⟩
    Returns (reactions Recorder.behaviour (.named "t") .started registry.listeners cast) ∧
      (execute Recorder.behaviour true (.named "t") (.ofOutcome .succeeded) registry cast).events =
        [.call ⟨.named "P", .named "t", .started⟩, .call ⟨.named "K", .named "t", .started⟩,
          .call ⟨.named "R", .named "t", .started⟩, .ran (.named "t"),
          .call ⟨.named "P", .named "t", .succeeded⟩, .call ⟨.named "K", .named "t", .succeeded⟩] ∧
      (execute Recorder.behaviour true (.named "t") (.ofOutcome .succeeded) registry cast).warnings =
        [.endedAbnormally] := by
  intro registry cast
  have hstart : Returns
      (reactions Recorder.behaviour (.named "t") .started registry.listeners cast) := by
    unfold Returns
    decide
  obtain ⟨hevents, -, -, hwarnings⟩ := (execute_up_to_panic Recorder.behaviour true (.named "t")
    (.ofOutcome .succeeded) registry cast).1 hstart
  refine ⟨hstart, hevents.trans (by decide), hwarnings ?_⟩
  unfold Returns
  decide

/-- A listener that panics at the start keeps the task from running and the next listener from hearing
of anything.  One that panics at success keeps the success from the next listener. -/
theorem panicking_listener_starves_others :
    let events (kind : RecorderKind) :=
      (execute Recorder.behaviour true (.named "t") (.ofOutcome .succeeded)
        ⟨[.named "K", .named "R"]⟩ ⟨[("K", kind)], []⟩).events
    Event.ran (.named "t") ∉ events .panicOnStart ∧
      Event.call ⟨.named "R", .named "t", .started⟩ ∉ events .panicOnStart ∧
      Event.call ⟨.named "R", .named "t", .succeeded⟩ ∉ events .panicOnStart ∧
      Event.ran (.named "t") ∈ events .panicOnSuccess ∧
      Event.call ⟨.named "R", .named "t", .succeeded⟩ ∉ events .panicOnSuccess := by
  decide

end Crontab
