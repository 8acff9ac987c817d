import Crontab.Listener.Recorder
import Crontab.Proofs.Execution.Alone
import Crontab.Proofs.Places
import Mathlib.Algebra.BigOperators.Group.List.Basic
import Mathlib.Algebra.GroupWithZero.Nat

/-!
# Every execution is reported once

The executions of a tick go on side by side, in any order.  While the listeners stay the same and
their callbacks return normally, each execution is seen exactly as if it were alone: its listeners
are told of the start, then the task runs, then they are told of the outcome.

* `Outcome.report`, `life` — the report of an outcome, and all that is seen of an execution.
* `Steady` — listeners whose callbacks return normally and leave the registry alone.
* `Underway.remaining` — what is still to be seen of an execution.
* `advance_of_steady` — what a step shows is what was to be seen next.
* `Overlap.assigned`, `assigned_of_runSteps` — the tasks of a tick and the order of their dispatch,
  which no listener can change.
* `Overlap.Faithful`, `Faithful.step`, `Faithful.of_runSteps` — what has been seen of an execution
  and what is still to be seen of it are together its life, after a step and after a run.
* `Overlap.exists_step` — what has not finished can go on.
* `Faithful.eventsOf_of_finished`, `Faithful.log_of_finished` — what has been seen in the end.
* `every_execution_reported_once` — of every tick, every order and every assignment of outcomes.
-/

set_option autoImplicit false

namespace Crontab

/-- The notice that an outcome is reported with. -/
def Outcome.report : Outcome → Notice
  | .succeeded => .succeeded
  | .failed e => .failed e
  | .panicked (.text message) => .failed (.panicked message)
  | .panicked .nonText => .failed (.panicked "unknown panic")

theorem Outcome.notice_eq_report (o : Outcome) : o.notice = o.report := by
  match o with
  | .succeeded => rfl
  | .failed _ => rfl
  | .panicked (.text _) => rfl
  | .panicked .nonText => rfl

variable {ι σ : Type}

/-- The calls of a round of notification. -/
def calls (task : TaskId) (notice : Notice) (ls : List ι) : List (Event ι) :=
  ls.map fun l => .call ⟨l, task, notice⟩

/-- All that is seen of an execution, in order: every listener is told of the start, the task runs,
and every listener is told of the outcome. -/
def life (ls : List ι) (task : TaskId) (o : Outcome) : List (Event ι) :=
  calls task .started ls ++ .ran task :: calls task o.report ls

/-- Listeners whose callbacks return normally and leave the registry alone, as long as their world
is in a state of a kind that the callbacks keep to. -/
structure Steady (b : Behaviour ι σ) (ls : List ι) (P : σ → Prop) : Prop where
  changes : ∀ state l task notice, P state → l ∈ ls → (b state l task notice).changes = []
  panic : ∀ state l task notice, P state → l ∈ ls → (b state l task notice).panic = none
  state : ∀ state l task notice, P state → l ∈ ls → P (b state l task notice).state

/-! ## One execution -/

/-- The listeners still to be told in a round. -/
def Stage.left : Stage ι → List ι
  | .starting left => left
  | .reporting left => left
  | _ => []

namespace Underway

/-- What is still to be seen of an execution. -/
def remaining (ls : List ι) (e : Underway ι) : List (Event ι) :=
  match e.stage with
  | .waiting => life ls e.task e.run.outcome
  | .starting left =>
    calls e.task .started left ++ .ran e.task :: calls e.task e.run.outcome.report ls
  | .ran => calls e.task e.run.outcome.report ls
  | .reporting left => calls e.task e.run.outcome.report left
  | .ended => []

/-- How many steps an execution has still to take. -/
def stepsLeft (ls : List ι) (e : Underway ι) : Nat :=
  match e.stage with
  | .waiting => 2 * ls.length + 4
  | .starting left => left.length + ls.length + 3
  | .ran => ls.length + 2
  | .reporting left => left.length + 1
  | .ended => 0

end Underway

variable [DecidableEq ι] {b : Behaviour ι σ} {logFailures : Bool} {ls : List ι} {P : σ → Prop}

theorem tell_of_steady (hb : Steady b ls P) {l : ι} (hl : l ∈ ls) {state : σ} (hP : P state)
    (task : TaskId) (notice : Notice) (next : Stage ι) (registry : Registry ι) :
    tell b task notice l next registry state =
      (next, ⟨[.call ⟨l, task, notice⟩], [], registry, (b state l task notice).state⟩) := by
  simp [tell, hb.changes state l task notice hP hl, hb.panic state l task notice hP hl,
    Registry.applyAll, panicWarning]

/-- The events of a step are those that were to be seen next. -/
theorem advance_of_steady (hb : Steady b ls P) {e : Underway ι} (hrun : e.run.changes = [])
    (hleft : ∀ l ∈ e.stage.left, l ∈ ls) {state : σ} (hP : P state) {s : Stage ι}
    {x : Execution ι σ} (h : e.advance b logFailures ⟨ls⟩ state = some (s, x)) :
    x.registry = ⟨ls⟩ ∧ P x.state ∧ (∀ l ∈ s.left, l ∈ ls) ∧
      x.events ++ Underway.remaining ls { e with stage := s } = e.remaining ls ∧
      Underway.stepsLeft ls { e with stage := s } + 1 = e.stepsLeft ls := by
  obtain ⟨task, run, stage⟩ := e
  match stage with
  | .waiting =>
    cases h
    refine ⟨rfl, hP, fun l hl => hl, rfl, ?_⟩
    simp only [Underway.stepsLeft]
    omega
  | .starting (l :: left) =>
    obtain ⟨hl, hleft⟩ := List.forall_mem_cons.1 hleft
    simp only [Underway.advance, tell_of_steady hb hl hP] at h
    cases h
    refine ⟨rfl, hb.state _ _ _ _ hP hl, hleft, rfl, ?_⟩
    simp only [Underway.stepsLeft, List.length_cons]
    omega
  | .starting [] =>
    cases h
    refine ⟨congrArg (Registry.applyAll ⟨ls⟩) hrun, hP, hleft, rfl, ?_⟩
    simp only [Underway.stepsLeft, List.length_nil]
    omega
  | .ran =>
    cases h
    exact ⟨rfl, hP, fun l hl => hl, rfl, rfl⟩
  | .reporting (l :: left) =>
    obtain ⟨hl, hleft⟩ := List.forall_mem_cons.1 hleft
    simp only [Underway.advance, tell_of_steady hb hl hP, Outcome.notice_eq_report] at h
    cases h
    exact ⟨rfl, hb.state _ _ _ _ hP hl, hleft, rfl, rfl⟩
  | .reporting [] =>
    cases h
    exact ⟨rfl, hP, hleft, rfl, rfl⟩
  | .ended => cases h

/-- An execution that has not ended can go on. -/
theorem exists_advance (b : Behaviour ι σ) (logFailures : Bool) {e : Underway ι}
    (h : e.stage ≠ .ended) (registry : Registry ι) (state : σ) :
    ∃ a, e.advance b logFailures registry state = some a := by
  obtain ⟨task, run, stage⟩ := e
  match stage with
  | .waiting | .starting (_ :: _) | .starting [] | .ran | .reporting (_ :: _) | .reporting [] =>
    exact ⟨_, rfl⟩
  | .ended => exact absurd rfl h

/-! ## All executions of a tick -/

namespace Overlap

omit [DecidableEq ι] in
theorem eventsOf_adopt (o : Overlap ι σ) (k : Nat) (e : Underway ι) (s : Stage ι)
    (x : Execution ι σ) (j : Nat) :
    (o.adopt k e s x).eventsOf j = o.eventsOf j ++ if k = j then x.events else [] := by
  have hnew : ((x.events.map (k, ·)).filter fun y => y.1 == j).map (·.2) =
      if k = j then x.events else [] := by
    split
    · rename_i hk
      simp [List.filter_map, Function.comp_def, hk]
    · rename_i hk
      simp [List.filter_map, Function.comp_def, hk]
  rw [← hnew, eventsOf, adopt, List.filter_append, List.map_append]
  rfl

/-- The tasks of a tick in the order in which they are dispatched, with those that still wait for it
at the end. -/
def assigned (o : Overlap ι σ) : List (TaskId × TaskRun ι) :=
  o.executions.map (fun e => (e.task, e.run)) ++ o.undispatched

section

variable {o o' : Overlap ι σ}

omit [DecidableEq ι] in
theorem assigned_of_dispatch (h : o.dispatch = some o') : o'.assigned = o.assigned := by
  unfold Overlap.dispatch at h
  split at h
  · cases h
  · rename_i task run rest hnext
    cases h
    simp [assigned, hnext]

theorem assigned_of_advance {k : Nat} (h : o.advance b logFailures k = some o') :
    o'.assigned = o.assigned := by
  unfold Overlap.advance at h
  split at h
  · cases h
  · rename_i e he
    obtain ⟨⟨s, x⟩, -, rfl⟩ := Option.map_eq_some_iff.1 h
    exact congrArg (· ++ o.undispatched) (map_set_of_getElem? he rfl)

theorem assigned_of_step {k : Step} (h : o.step b logFailures k = some o') :
    o'.assigned = o.assigned := by
  cases k with
  | dispatch => exact assigned_of_dispatch h
  | advance k => exact assigned_of_advance h

/-- Whatever the listeners do, the tasks of a tick are dispatched one by one in their order. -/
theorem assigned_of_runSteps {steps : List Step}
    (h : runSteps (Overlap.step b logFailures) o steps = some o') : o'.assigned = o.assigned :=
  runSteps_induction (P := fun p => p.assigned = o.assigned)
    (fun _ _ _ hp hstep => (assigned_of_step hstep).trans hp) steps rfl h

omit [DecidableEq ι] in
theorem map_executions_of_finished (h : o.Finished) :
    o.executions.map (fun e => (e.task, e.run)) = o.assigned := by
  rw [assigned, h.1, List.append_nil]

end

/-- How many steps are still to be taken. -/
def stepsLeft (ls : List ι) (o : Overlap ι σ) : Nat :=
  (o.executions.map (Underway.stepsLeft ls)).sum + o.undispatched.length * (2 * ls.length + 5)

/-- The executions of some jobs, while the listeners stay the same and their callbacks return
normally: what has been seen of every execution, followed by what is still to be seen of it, is its
life. -/
structure Faithful (ls : List ι) (P : σ → Prop) (jobs : List (TaskId × TaskRun ι))
    (o : Overlap ι σ) : Prop where
  registry : o.registry = ⟨ls⟩
  state : P o.state
  jobs : o.executions.map (fun e => (e.task, e.run)) ++ o.undispatched = jobs
  left : ∀ e ∈ o.executions, ∀ l ∈ e.stage.left, l ∈ ls
  seen : ∀ k e, o.executions[k]? = some e →
    o.eventsOf k ++ e.remaining ls = life ls e.task e.run.outcome
  unseen : ∀ k, o.executions.length ≤ k → o.eventsOf k = []
  log : (o.log.map (·.2) ++ o.executions.flatMap (·.remaining ls)).Perm
    (o.executions.flatMap fun e => life ls e.task e.run.outcome)

namespace Faithful

variable {jobs : List (TaskId × TaskRun ι)} {o o' : Overlap ι σ}

omit [DecidableEq ι] in
theorem of_start {state : σ} (hP : P state) : (start jobs ⟨ls⟩ state).Faithful ls P jobs where
  registry := rfl
  state := hP
  jobs := rfl
  left := by simp [start]
  seen := by simp [start]
  unseen := fun _ _ => rfl
  log := .nil

omit [DecidableEq ι] in
theorem dispatch (h : o.Faithful ls P jobs) (ho : o.dispatch = some o') :
    o'.Faithful ls P jobs ∧ o'.stepsLeft ls + 1 = o.stepsLeft ls := by
  have hjobs := (assigned_of_dispatch ho).trans h.jobs
  unfold Overlap.dispatch at ho
  split at ho
  · cases ho
  · rename_i task run rest hnext
    cases ho
    constructor
    · exact {
        registry := h.registry
        state := h.state
        jobs := hjobs
        left := by
          intro e he
          rcases List.mem_append.1 he with he | he
          · exact h.left e he
          · rw [List.mem_singleton.1 he]
            exact List.forall_mem_nil _
        seen := by
          intro k e he
          rcases Nat.lt_trichotomy k o.executions.length with hk | rfl | hk
          · rw [List.getElem?_append_left hk] at he
            exact h.seen k e he
          · rw [List.getElem?_concat_length] at he
            cases he
            -- Nothing has been seen at a place without an execution.
            have hnone : o.eventsOf o.executions.length = [] := h.unseen _ (Nat.le_refl _)
            exact congrArg (· ++ life ls task run.outcome) hnone
          · rw [List.getElem?_eq_none (by rw [List.length_append]; exact hk)] at he
            cases he
        unseen := by
          intro k hk
          rw [List.length_append] at hk
          exact h.unseen k (by omega)
        log := by
          simp only [List.flatMap_append, ← List.append_assoc]
          exact h.log.append_right _ }
    · simp only [stepsLeft, hnext, List.map_append, List.sum_append, List.length_cons,
        Nat.succ_mul]
      simp only [List.map_cons, List.map_nil, List.sum_singleton, Underway.stepsLeft]
      omega

theorem advance (hb : Steady b ls P) (hquiet : ∀ j ∈ jobs, j.2.changes = [])
    (h : o.Faithful ls P jobs) {k : Nat} (ho : o.advance b logFailures k = some o') :
    o'.Faithful ls P jobs ∧ o'.stepsLeft ls + 1 = o.stepsLeft ls := by
  have hjobs := (assigned_of_advance ho).trans h.jobs
  unfold Overlap.advance at ho
  split at ho
  · cases ho
  · rename_i e he
    obtain ⟨⟨s, x⟩, hx, rfl⟩ := Option.map_eq_some_iff.1 ho
    have hmem : e ∈ o.executions := List.mem_of_getElem? he
    have hrun : e.run.changes = [] := by
      refine hquiet (e.task, e.run) ?_
      rw [← h.jobs]
      exact List.mem_append_left _ (List.mem_map_of_mem hmem)
    rw [h.registry] at hx
    obtain ⟨hreg, hP, hleft, hseen, hsteps⟩ := advance_of_steady hb hrun (h.left e hmem) h.state hx
    have hset := perm_set_of_getElem? he { e with stage := s }
    have hsame : ∀ {β : Type} (f : TaskId → TaskRun ι → β),
        (o.executions.set k { e with stage := s }).map (fun e => f e.task e.run) =
          o.executions.map fun e => f e.task e.run :=
      fun f => map_set_of_getElem? he rfl
    constructor
    · exact {
        registry := hreg
        state := hP
        jobs := hjobs
        left := by
          intro e' he'
          rcases List.mem_or_eq_of_mem_set he' with he' | rfl
          · exact h.left e' he'
          · exact hleft
        seen := by
          intro j e' he'
          rw [eventsOf_adopt]
          by_cases hkj : k = j
          · subst hkj
            have hlt := (List.getElem?_eq_some_iff.1 he).1
            rw [adopt, List.getElem?_set_self hlt] at he'
            cases he'
            rw [if_pos rfl, List.append_assoc, hseen]
            exact h.seen k e he
          · rw [adopt, List.getElem?_set_ne hkj] at he'
            rw [if_neg hkj, List.append_nil]
            exact h.seen j e' he'
        unseen := by
          intro j hj
          rw [adopt, List.length_set] at hj
          have hlt := (List.getElem?_eq_some_iff.1 he).1
          rw [eventsOf_adopt, if_neg (by omega), List.append_nil]
          exact h.unseen j hj
        log := by
          have hlog : (o.log ++ x.events.map (k, ·)).map (·.2) = o.log.map (·.2) ++ x.events := by
            simp [Function.comp_def]
          have hlife : (o.executions.set k { e with stage := s }).flatMap
                (fun e => life ls e.task e.run.outcome) =
              o.executions.flatMap fun e => life ls e.task e.run.outcome := by
            rw [List.flatMap_def, List.flatMap_def, hsame fun task run => life ls task run.outcome]
          have hnow := (perm_cons_eraseIdx he).flatMap_right (Underway.remaining ls)
          have hnext := hset.flatMap_right (Underway.remaining ls)
          rw [List.flatMap_cons] at hnow hnext
          rw [← hseen, List.append_assoc] at hnow
          simp only [adopt, hlog, hlife, List.append_assoc]
          -- What the step shows moves from what is still to be seen to the log.
          refine ((hnext.append_left _).append_left _).trans ?_
          exact (hnow.symm.append_left _).trans h.log }
    · have hnow := ((perm_cons_eraseIdx he).map (Underway.stepsLeft ls)).sum_eq
      have hnext := (hset.map (Underway.stepsLeft ls)).sum_eq
      rw [List.map_cons, List.sum_cons] at hnow hnext
      simp only [stepsLeft, adopt]
      omega

theorem step (hb : Steady b ls P) (hquiet : ∀ j ∈ jobs, j.2.changes = [])
    (h : o.Faithful ls P jobs) {k : Step} (ho : o.step b logFailures k = some o') :
    o'.Faithful ls P jobs ∧ o'.stepsLeft ls + 1 = o.stepsLeft ls := by
  cases k with
  | dispatch => exact h.dispatch ho
  | advance k => exact h.advance hb hquiet ho

/-- After a run as well, what has been seen of an execution and what is still to be seen of it are its
life, and the run has taken the steps that are no longer left. -/
theorem of_runSteps (hb : Steady b ls P) (hquiet : ∀ j ∈ jobs, j.2.changes = []) {steps : List Step}
    (h : o.Faithful ls P jobs) (hrun : runSteps (Overlap.step b logFailures) o steps = some o') :
    o'.Faithful ls P jobs ∧ steps.length + o'.stepsLeft ls = o.stepsLeft ls := by
  induction steps generalizing o with
  | nil =>
    cases hrun
    exact ⟨h, Nat.zero_add _⟩
  | cons k steps ih =>
    obtain ⟨p, hp, hrest⟩ := Option.bind_eq_some_iff.1 hrun
    obtain ⟨hfaithful, hstep⟩ := h.step hb hquiet hp
    obtain ⟨hfaithful', hsteps⟩ := ih hfaithful hrest
    refine ⟨hfaithful', ?_⟩
    rw [List.length_cons]
    omega

omit [DecidableEq ι] in
theorem dispatched (h : o.Faithful ls P jobs) :
    o.executions.map (·.task) <+: jobs.map (·.1) := by
  rw [← h.jobs, List.map_append, List.map_map]
  exact List.prefix_append _ _

omit [DecidableEq ι] in
/-- Of an execution, no more is seen than its life, and that in order. -/
theorem eventsOf_prefix (h : o.Faithful ls P jobs) (k : Nat) :
    o.eventsOf k <+: (jobs.map fun j => life ls j.1 j.2.outcome)[k]?.getD [] := by
  cases hk : o.executions[k]? with
  | none =>
    rw [h.unseen k (List.getElem?_eq_none_iff.1 hk)]
    exact List.nil_prefix
  | some e =>
    have hlt := (List.getElem?_eq_some_iff.1 hk).1
    have hjob : jobs[k]? = some (e.task, e.run) := by
      rw [← h.jobs, List.getElem?_append_left (by rwa [List.length_map]), List.getElem?_map, hk]
      rfl
    rw [List.getElem?_map, hjob]
    exact ⟨_, h.seen k e hk⟩

end Faithful

/-! ## When every execution has ended -/

theorem exists_step (o : Overlap ι σ) (h : ¬ o.Finished) :
    ∃ k o', o.step b logFailures k = some o' := by
  cases hnext : o.undispatched with
  | cons job rest => exact ⟨.dispatch, _, by rw [step, Overlap.dispatch, hnext]⟩
  | nil =>
    obtain ⟨e, he, hstage⟩ : ∃ e ∈ o.executions, e.stage ≠ .ended := by
      by_contra hall
      push Not at hall
      exact h ⟨hnext, hall⟩
    obtain ⟨k, hk⟩ := List.mem_iff_getElem?.1 he
    obtain ⟨a, ha⟩ := exists_advance b logFailures hstage o.registry o.state
    refine ⟨.advance k, o.adopt k e a.1 a.2, ?_⟩
    simp only [step, Overlap.advance, hk, ha, Option.map_some]

namespace Faithful

variable {jobs : List (TaskId × TaskRun ι)} {o : Overlap ι σ}

omit [DecidableEq ι]

theorem jobs_of_finished (h : o.Faithful ls P jobs) (hf : o.Finished) :
    o.executions.map (fun e => (e.task, e.run)) = jobs :=
  (map_executions_of_finished hf).trans h.jobs

theorem dispatched_of_finished (h : o.Faithful ls P jobs) (hf : o.Finished) :
    o.executions.map (·.task) = jobs.map (·.1) := by
  rw [← h.jobs_of_finished hf, List.map_map]
  rfl

theorem eventsOf_of_finished (h : o.Faithful ls P jobs) (hf : o.Finished) (k : Nat) :
    o.eventsOf k = (jobs.map fun j => life ls j.1 j.2.outcome)[k]?.getD [] := by
  rw [← h.jobs_of_finished hf, List.map_map, List.getElem?_map]
  cases hk : o.executions[k]? with
  | none => exact h.unseen k (List.getElem?_eq_none_iff.1 hk)
  | some e =>
    have hnothing : e.remaining ls = [] := by
      rw [Underway.remaining, hf.2 e (List.mem_of_getElem? hk)]
    have hseen := h.seen k e hk
    rw [hnothing, List.append_nil] at hseen
    exact hseen

/-- In the end the log holds the lives of all executions, in some order. -/
theorem log_of_finished (h : o.Faithful ls P jobs) (hf : o.Finished) :
    (o.log.map (·.2)).Perm (jobs.flatMap fun j => life ls j.1 j.2.outcome) := by
  have hnothing : o.executions.flatMap (·.remaining ls) = [] := by
    refine List.flatMap_eq_nil_iff.2 fun e he => ?_
    rw [Underway.remaining, hf.2 e he]
  have hlog := h.log
  rw [hnothing, List.append_nil] at hlog
  rw [← h.jobs_of_finished hf, List.flatMap_map]
  exact hlog

end Faithful

end Overlap

section

variable {τ : Type} (t : Table τ) (zone : Zone) (millis : Int) (matchSecond : Bool)

/-- What is to be seen of the executions of a tick, one by one. -/
def lives (ls : List ι) (outcome : TaskId → τ → Outcome) : List (List (Event ι)) :=
  (t.due zone millis matchSecond).map fun d => life ls d.1 (outcome d.1 d.2)

omit [DecidableEq ι] in
theorem map_fst_jobs (outcome : TaskId → τ → Outcome) :
    (t.jobs (ι := ι) zone millis matchSecond outcome).map (·.1) =
      (t.due zone millis matchSecond).map (·.1) := by
  rw [Table.jobs, List.map_map]
  rfl

omit [DecidableEq ι] in
theorem map_life_jobs (ls : List ι) (outcome : TaskId → τ → Outcome) :
    ((t.jobs (ι := ι) zone millis matchSecond outcome).map fun j => life ls j.1 j.2.outcome) =
      lives t zone millis matchSecond ls outcome := by
  rw [Table.jobs, List.map_map]
  rfl

/-- Whatever a tick leads to keeps to the lives of the executions of the tasks that are due. -/
theorem faithful_of_ofTick (outcome : TaskId → τ → Outcome) (hb : Steady b ls P) {state : σ}
    (hP : P state) {steps : List Overlap.Step} {s : Overlap ι σ}
    (hrun : runSteps (Overlap.step b logFailures)
      (.ofTick t zone millis matchSecond outcome ⟨ls⟩ state) steps = some s) :
    s.Faithful ls P (t.jobs zone millis matchSecond outcome) ∧
    steps.length + s.stepsLeft ls =
      (t.due zone millis matchSecond).length * (2 * ls.length + 5) := by
  have hquiet : ∀ j ∈ t.jobs (ι := ι) zone millis matchSecond outcome, j.2.changes = [] := by
    intro j hj
    obtain ⟨d, -, rfl⟩ := List.mem_map.1 hj
    rfl
  obtain ⟨hs, hsteps⟩ := Overlap.Faithful.of_runSteps hb hquiet (.of_start hP) hrun
  refine ⟨hs, hsteps.trans ?_⟩
  simp [Overlap.stepsLeft, Overlap.start, Table.jobs]

/-- **Every execution is reported once, whatever the others do.**  The tasks that are due at a tick
are executed in any order and side by side, with any outcomes.

At every moment, the tasks dispatched are the first of those due, and what has been seen of the
execution at each place begins what is to be seen of it.  Whatever has not finished can go on, and
does not go on for ever.  In the end every task that is due has been dispatched, all that was to be
seen of its execution has been seen, and nothing else has, so that the log holds what it would hold
if the tasks were executed one after another.  Another order, another state of the listeners' world
or other outcomes of other tasks make no difference to what is seen of an execution, and the log is
the same up to its order. -/
theorem every_execution_reported_once (outcome : TaskId → τ → Outcome) (hb : Steady b ls P)
    {state : σ} (hP : P state) {steps : List Overlap.Step} {s : Overlap ι σ}
    (hrun : runSteps (Overlap.step b logFailures)
      (.ofTick t zone millis matchSecond outcome ⟨ls⟩ state) steps = some s) :
    s.executions.map (·.task) <+: (t.due zone millis matchSecond).map (·.1) ∧
    (∀ k, s.eventsOf k <+: (lives t zone millis matchSecond ls outcome)[k]?.getD []) ∧
    (¬ s.Finished → ∃ k s', s.step b logFailures k = some s') ∧
    steps.length ≤ (t.due zone millis matchSecond).length * (2 * ls.length + 5) ∧
    (s.Finished →
      s.executions.map (·.task) = (t.due zone millis matchSecond).map (·.1) ∧
      (∀ k, s.eventsOf k = (lives t zone millis matchSecond ls outcome)[k]?.getD []) ∧
      (s.log.map (·.2)).Perm
        (executeAll b logFailures (t.jobs zone millis matchSecond outcome) ⟨ls⟩ state).events ∧
      ∀ (outcome' : TaskId → τ → Outcome) (state' : σ) (steps' : List Overlap.Step)
        (s' : Overlap ι σ), P state' → runSteps (Overlap.step b logFailures)
          (.ofTick t zone millis matchSecond outcome' ⟨ls⟩ state') steps' = some s' → s'.Finished →
        s'.executions.map (·.task) = s.executions.map (·.task) ∧
        (∀ k id task, (t.due zone millis matchSecond)[k]? = some (id, task) →
          outcome' id task = outcome id task → s'.eventsOf k = s.eventsOf k) ∧
        (outcome' = outcome → (s'.log.map (·.2)).Perm (s.log.map (·.2)))) := by
  obtain ⟨hs, hsteps⟩ := faithful_of_ofTick t zone millis matchSecond outcome hb hP hrun
  have hids := map_fst_jobs t zone millis matchSecond (ι := ι)
  have hlives := map_life_jobs t zone millis matchSecond ls
  refine ⟨hids outcome ▸ hs.dispatched, hlives outcome ▸ hs.eventsOf_prefix, s.exists_step,
    by omega, fun hf => ⟨hids outcome ▸ hs.dispatched_of_finished hf,
      hlives outcome ▸ hs.eventsOf_of_finished hf, ?_, ?_⟩⟩
  · -- One after another is one of the orders.
    let o : Overlap ι σ := .ofTick t zone millis matchSecond outcome ⟨ls⟩ state
    obtain ⟨counts, s', hrun', hf', -, hleft⟩ :=
      exists_runSteps_eq_executeAll b logFailures (rfl : o.undispatched = _) (List.forall_mem_nil _)
    have hs' := (faithful_of_ofTick t zone millis matchSecond outcome hb hP hrun').1
    have hlogs := (hs.log_of_finished hf).trans (hs'.log_of_finished hf').symm
    have hlog' : s'.log.map (·.2) = _ := congrArg Execution.events hleft
    rw [hlog'] at hlogs
    exact hlogs
  · intro outcome' state' steps' s' hP' hrun' hf'
    have hs' := (faithful_of_ofTick t zone millis matchSecond outcome' hb hP' hrun').1
    refine ⟨?_, ?_, ?_⟩
    · rw [hs'.dispatched_of_finished hf', hs.dispatched_of_finished hf, hids, hids]
    · intro k id task hk hsame
      rw [hs'.eventsOf_of_finished hf', hs.eventsOf_of_finished hf, hlives, hlives]
      simp only [lives, List.getElem?_map, hk, Option.map_some, hsame]
    · rintro rfl
      exact (hs'.log_of_finished hf').trans (hs.log_of_finished hf).symm

end

/-- As long as all recorders are plain, their callbacks return normally. -/
theorem steady_recorders (ls : List Recorder) :
    Steady Recorder.behaviour ls fun cast => cast.kinds = [] := by
  have hkind : ∀ cast : RecorderCast, cast.kinds = [] → ∀ n, cast.kindOf n = .plain := by
    intro cast h n
    rw [RecorderCast.kindOf, h]
    rfl
  refine ⟨?_, ?_, ?_⟩
  · rintro cast (n | owner) task notice h -
    · simp only [Recorder.behaviour, hkind cast h]
    · rfl
  · rintro cast (n | owner) task notice h -
    · simp only [Recorder.behaviour, hkind cast h, Recorder.panics]
      rfl
    · rfl
  · rintro cast (n | owner) task notice h -
    · simp only [Recorder.behaviour]
      split
      · exact h
      · exact h
    · exact h

/-- Two tasks of every minute: one fails, the other one panics with something that is no text. -/
def failingTable : Table Outcome :=
  let always : Pattern := ⟨"* * * * *", [⟨.always, .always, .always, .always, .always, .always⟩]⟩
  ⟨[⟨.named "fails", always, .failed (.failed "no answer")⟩,
    ⟨.named "panics", always, .panicked .nonText⟩]⟩

/-- The second execution begins when a listener has been told of the start of the first one, and
from then on they take turns. -/
def turns : List Overlap.Step :=
  [.dispatch, .advance 0, .advance 0, .dispatch] ++
    ((List.replicate 6 [.advance 1, .advance 0]).flatten ++ [.advance 1, .advance 1])

/-- Of two executions that take turns, both are reported. -/
theorem two_executions_reported_once :
    ∃ s : Overlap Recorder RecorderCast,
      Steady Recorder.behaviour [.named "x", .named "y"] (fun cast => cast.kinds = []) ∧
      RecorderCast.empty.kinds = [] ∧
      runSteps (Overlap.step Recorder.behaviour true)
        (.ofTick failingTable (.localTime (.fixed 0)) 0 false (fun _ o => o)
          ⟨[.named "x", .named "y"]⟩ .empty) turns = some s ∧
      s.Finished ∧
      s.eventsOf 1 = [.call ⟨.named "x", .named "panics", .started⟩,
        .call ⟨.named "y", .named "panics", .started⟩, .ran (.named "panics"),
        .call ⟨.named "x", .named "panics", .failed (.panicked "unknown panic")⟩,
        .call ⟨.named "y", .named "panics", .failed (.panicked "unknown panic")⟩] := by
  have hsteady := steady_recorders [.named "x", .named "y"]
  have hends : (runSteps (Overlap.step Recorder.behaviour true)
      (.ofTick failingTable (.localTime (.fixed 0)) 0 false (fun _ o => o)
        ⟨[.named "x", .named "y"]⟩ .empty) turns).any (fun s => decide s.Finished) = true := by
    decide +kernel
  obtain ⟨s, hrun, hs⟩ := (Option.any_eq_true _ _).1 hends
  have hf : s.Finished := of_decide_eq_true hs
  obtain ⟨-, -, -, -, hend⟩ := every_execution_reported_once failingTable
    (.localTime (.fixed 0)) 0 false (fun _ o => o) hsteady rfl hrun
  refine ⟨s, hsteady, rfl, hrun, hf, ?_⟩
  rw [(hend hf).2.1 1]
  decide +kernel

end Crontab
