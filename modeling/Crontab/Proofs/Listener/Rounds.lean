import Crontab.Proofs.Execution.Panics
import Crontab.Scheduler

/-!
# Listeners that come and go

Listeners may be added and removed while a round of notification is under way, by the listeners that
are told and, between the two rounds of an execution, by its task.  A round keeps to the listeners
that were registered when it began, and the next one finds all changes made.

* `Registry.Without`, `without_remove` — a registry that a listener has left.
* `mem_applyAll_of_added`, `not_mem_applyAll_of_removed` — the last change tells whether a listener
  is registered.
* `notify_of_returns` — a round whose callbacks return.
* `execute_of_returns` — the second round of an execution begins with what the first one and the
  task have left.
* `listeners_taken_when_round_begins` — who is told, and what is registered afterwards.
-/

set_option autoImplicit false

namespace Crontab

variable {ι σ τ : Type}

/-! ## Changes of a registry -/

namespace Registry

/-- Whether a registry is what another one becomes when a listener leaves it: none of its
registrations is left, and those of the others stay in their order. -/
structure Without [DecidableEq ι] (r : Registry ι) (l : ι) (rest : Registry ι) : Prop where
  gone : l ∉ rest.listeners
  inOrder : rest.listeners.Sublist r.listeners
  others : ∀ l', l' ≠ l → rest.listeners.count l' = r.listeners.count l'

variable (r : Registry ι) {l : ι}

theorem mem_add_iff {l' : ι} : l' ∈ (r.add l).listeners ↔ l' ∈ r.listeners ∨ l' = l := by
  simp [add]

variable [DecidableEq ι]

theorem mem_remove_iff {l' : ι} :
    l' ∈ (r.remove l).listeners ↔ l' ∈ r.listeners ∧ l' ≠ l := by
  simp [remove]

theorem without_remove (l : ι) : r.Without l (r.remove l) where
  gone h := (r.mem_remove_iff.1 h).2 rfl
  inOrder := List.filter_sublist
  others l' hl := List.count_filter (by simpa using hl)

/-- A registry gets smaller exactly when it loses a listener. -/
theorem size_remove_ne_iff : (r.remove l).size ≠ r.size ↔ l ∈ r.listeners := by
  rw [size, size, remove, ne_eq, List.length_filter_eq_length_iff]
  simp

theorem applyAll_cons (change : RegistryChange ι) (changes : List (RegistryChange ι)) :
    r.applyAll (change :: changes) = (r.apply change).applyAll changes := rfl

theorem applyAll_append (changes more : List (RegistryChange ι)) :
    r.applyAll (changes ++ more) = (r.applyAll changes).applyAll more :=
  List.foldl_append

variable {r}

/-- Without a removal a listener stays registered. -/
theorem mem_applyAll_of_mem {changes : List (RegistryChange ι)} (h : l ∈ r.listeners)
    (hchanges : .remove l ∉ changes) : l ∈ (r.applyAll changes).listeners := by
  induction changes generalizing r with
  | nil => exact h
  | cons change changes ih =>
    obtain ⟨hne, hrest⟩ := not_or.1 (mt List.mem_cons.2 hchanges)
    refine ih ?_ hrest
    cases change with
    | add l' => exact r.mem_add_iff.2 (.inl h)
    | remove l' => exact r.mem_remove_iff.2 ⟨h, fun heq => hne (by rw [heq])⟩

/-- Without an addition a listener stays away. -/
theorem not_mem_applyAll_of_not_mem {changes : List (RegistryChange ι)} (h : l ∉ r.listeners)
    (hchanges : .add l ∉ changes) : l ∉ (r.applyAll changes).listeners := by
  induction changes generalizing r with
  | nil => exact h
  | cons change changes ih =>
    obtain ⟨hne, hrest⟩ := not_or.1 (mt List.mem_cons.2 hchanges)
    refine ih ?_ hrest
    cases change with
    | add l' =>
      rw [apply, mem_add_iff]
      rintro (hmem | heq)
      · exact h hmem
      · exact hne (by rw [heq])
    | remove l' => exact fun hmem => h (r.mem_remove_iff.1 hmem).1

/-- What was added last is registered. -/
theorem mem_applyAll_of_added {before after : List (RegistryChange ι)}
    (h : .remove l ∉ after) : l ∈ (r.applyAll (before ++ .add l :: after)).listeners := by
  rw [applyAll_append, applyAll_cons]
  exact mem_applyAll_of_mem ((r.applyAll before).mem_add_iff.2 (.inr rfl)) h

/-- What was removed last is not registered. -/
theorem not_mem_applyAll_of_removed {before after : List (RegistryChange ι)}
    (h : .add l ∉ after) : l ∉ (r.applyAll (before ++ .remove l :: after)).listeners := by
  rw [applyAll_append, applyAll_cons]
  exact not_mem_applyAll_of_not_mem ((r.applyAll before).without_remove l).gone h

end Registry

namespace Scheduler

variable [DecidableEq ι] (s : Scheduler τ ι) (l : ι)

theorem result_removeListener :
    (removeListener l).result s = .ok (decide (l ∈ s.listeners.listeners)) := by
  have hsize : ((s.listeners.remove l).size != s.listeners.size) =
      decide (l ∈ s.listeners.listeners) := by
    rw [Bool.eq_iff_iff, bne_iff_ne, Registry.size_remove_ne_iff, decide_eq_true_iff]
  simp [removeListener, Except.map, hsize]

theorem after_removeListener :
    (removeListener l).after s = { s with listeners := s.listeners.remove l } := by
  simp [removeListener]

end Scheduler

/-! ## Rounds and executions -/

section

variable [DecidableEq ι] {b : Behaviour ι σ} {task : TaskId} {notice : Notice}
  {registry : Registry ι} {state : σ}

/-- A round whose callbacks return tells every listener, and makes the changes of all of them. -/
theorem notify_of_returns (h : Returns (reactions b task notice registry.listeners state)) :
    notify b task notice registry state =
      let rs := reactions b task notice registry.listeners state
      { calls := registry.listeners.map fun l => ⟨l, task, notice⟩
        registry := registry.applyAll (rs.flatMap (·.changes))
        state := rs.foldl (fun _ r => r.state) state
        panic := none } := by
  have hpanic : (reactions b task notice registry.listeners state).findSome? (·.panic) = none :=
    List.findSome?_eq_none_iff.2 h
  simp only [notify, notifyEach_eq, hpanic, upToPanic_of_returns h (Nat.le_refl _),
    upToPanic_of_returns h (length_reactions _ _ _ _ _).ge]

/-- If the first round of an execution returns, the second one begins with what this round and the
task have left. -/
theorem execute_of_returns (logFailures : Bool) (run : TaskRun ι)
    (h : Returns (reactions b task .started registry.listeners state)) :
    execute b logFailures task run registry state =
      let starting := reactions b task .started registry.listeners state
      let second := notify b task run.outcome.report
        (registry.applyAll (starting.flatMap (·.changes) ++ run.changes))
        (starting.foldl (fun _ r => r.state) state)
      { events := calls task .started registry.listeners ++
          .ran task :: second.calls.map Event.call
        warnings := run.outcome.warnings task logFailures ++ panicWarning second.panic
        registry := second.registry
        state := second.state } := by
  simp only [execute, notify_of_returns h, Outcome.notice_eq_report, Registry.applyAll_append, calls,
    List.map_map]
  rfl

end

/-- **A round keeps to the listeners that are registered when it begins.**  Whatever listeners are
registered, some of them perhaps several times, and whatever changes they make when they are told of
something:

A round tells the listeners registered when it began, once for each registration and in their order,
and leaves the registry with the changes of all of them, in the order in which they were made.  Only
a panic ends a round early, and the changes made up to then stay.

Taking out a listener takes out all its registrations, keeps the others in their order, and tells
whether there was one.

The second round of an execution begins when its task has run: it tells those who are registered
after the changes of the first round and of the task.  Among them is who was added last, and not
who was removed last. -/
theorem listeners_taken_when_round_begins [DecidableEq ι] (b : Behaviour ι σ) (logFailures : Bool)
    (task : TaskId) (run : TaskRun ι) (registry : Registry ι) (state : σ) :
    (∀ notice,
      let rs := reactions b task notice registry.listeners state
      let round := notify b task notice registry state
      (Returns rs →
        round.calls = registry.listeners.map (fun l => ⟨l, task, notice⟩) ∧
        round.registry = registry.applyAll (rs.flatMap (·.changes))) ∧
      round.calls = (upToPanic rs registry.listeners).map (fun l => ⟨l, task, notice⟩) ∧
      round.registry = registry.applyAll ((upToPanic rs rs).flatMap (·.changes))) ∧
    (∀ (s : Scheduler τ ι) (l : ι), s.listeners = registry →
      (Scheduler.removeListener l).result s = .ok (decide (l ∈ registry.listeners)) ∧
      ∃ rest, registry.Without l rest ∧
        (Scheduler.removeListener l).after s = { s with listeners := rest }) ∧
    (let starting := reactions b task .started registry.listeners state
      let changes := starting.flatMap (·.changes) ++ run.changes
      let atEnd := registry.applyAll changes
      let reporting := reactions b task run.outcome.report atEnd.listeners
        (starting.foldl (fun _ r => r.state) state)
      let x := execute b logFailures task run registry state
      Returns starting →
        (Returns reporting →
          x.events = calls task .started registry.listeners ++
            .ran task :: calls task run.outcome.report atEnd.listeners ∧
          x.registry = atEnd.applyAll (reporting.flatMap (·.changes))) ∧
        x.events = calls task .started registry.listeners ++
          .ran task :: calls task run.outcome.report (upToPanic reporting atEnd.listeners) ∧
        (∀ l before after, changes = before ++ .add l :: after → .remove l ∉ after →
          l ∈ atEnd.listeners) ∧
        ∀ l before after, changes = before ++ .remove l :: after → .add l ∉ after →
          l ∉ atEnd.listeners) := by
  refine ⟨fun notice => ⟨fun hrs => ?_, ?_, ?_⟩, fun s l hs => ?_, fun hstart => ?_⟩
  · rw [notify_of_returns hrs]
    exact ⟨rfl, rfl⟩
  · rw [notify, notifyEach_eq]
  · rw [notify, notifyEach_eq]
  · subst hs
    exact ⟨s.result_removeListener l, _, s.listeners.without_remove l, s.after_removeListener l⟩
  · have hx := execute_of_returns logFailures run hstart
    refine ⟨fun hreport => ?_, ?_, ?_, ?_⟩
    · simp only [hx, notify_of_returns hreport, calls, List.map_map]
      exact ⟨rfl, trivial⟩
    · simp only [hx, calls_notify]
    · intro l before after hchanges hafter
      rw [hchanges]
      exact Registry.mem_applyAll_of_added hafter
    · intro l before after hchanges hafter
      rw [hchanges]
      exact Registry.not_mem_applyAll_of_removed hafter

/-- A listener that is registered twice leaves when it is told of the start, and another one brings
a third along: both registrations are told of the start, and only the newcomer hears of the outcome
besides the one that brought it.  Taken out by hand, the first one is reported as found. -/
theorem listeners_taken_with_one_leaving_and_one_coming :
    let registry : Registry Recorder := ⟨[.named "S", .named "A", .named "S"]⟩
    let cast : RecorderCast := ⟨[("S", .removeSelf), ("A", .addOther)], []⟩
    let starting := reactions Recorder.behaviour (.named "t") .started registry.listeners cast
    let atEnd := registry.applyAll (starting.flatMap (·.changes))
    let x := execute Recorder.behaviour true (.named "t") (.ofOutcome .succeeded) registry cast
    let s : Scheduler Outcome Recorder := { (Scheduler.new (.fixed 0) : Scheduler Outcome Recorder) with
      listeners := registry }
    Returns starting ∧
      x.events = [.call ⟨.named "S", .named "t", .started⟩,
        .call ⟨.named "A", .named "t", .started⟩, .call ⟨.named "S", .named "t", .started⟩,
        .ran (.named "t"), .call ⟨.named "A", .named "t", .succeeded⟩,
        .call ⟨.companion "A", .named "t", .succeeded⟩] ∧
      x.registry = ⟨[.named "A", .companion "A"]⟩ ∧
      .companion "A" ∈ atEnd.listeners ∧ .named "S" ∉ atEnd.listeners ∧
      (Scheduler.removeListener (.named "S")).result s = .ok true := by
  intro registry cast starting atEnd x s
  have hstart : Returns starting := by
    unfold Returns
    decide
  obtain ⟨-, hremove, hsecond⟩ := listeners_taken_when_round_begins (τ := Outcome)
    Recorder.behaviour true (.named "t") (.ofOutcome .succeeded) registry cast
  obtain ⟨hreported, -, hadded, hremoved⟩ := hsecond hstart
  obtain ⟨hevents, hregistry⟩ := hreported (by unfold Returns; decide)
  refine ⟨hstart, hevents.trans (by decide), hregistry.trans (by decide), ?_, ?_, ?_⟩
  · exact hadded (.companion "A") [.remove (.named "S")] [] (by decide) List.not_mem_nil
  · exact hremoved (.named "S") [] [.add (.companion "A")] (by decide) (by decide)
  · exact (hremove s (.named "S") rfl).1.trans (by decide)

end Crontab
