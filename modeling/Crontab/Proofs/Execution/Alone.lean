import Crontab.Execution.Overlap
import Mathlib.Data.List.Basic

/-!
# Executions that are left alone

An execution whose steps nothing comes between does what `execute` says, and tasks that are
dispatched one after another, each when the last execution has ended, do what `executeAll` says.

* `Underway.Alone` — what an execution does when it goes on alone.
* `alone_of_advance`, `alone_of_round` — one step, and a round of notification.
* `alone_of_waiting` — a whole execution is `execute`.
* `Execution.InTurn` — what executions one after another leave behind.
* `exists_runSteps_eq_executeAll`, `Overlap.inTurn_unique` — they may go on as `executeAll` says, and
  in no other way.
* `Execution.inTurn_iff` — what they leave behind is what `executeAll` says.
-/

set_option autoImplicit false

namespace Crontab

variable {ι σ : Type}

/-- What the parts of an execution, or executions one after another, leave behind. -/
def Execution.andThen (x y : Execution ι σ) : Execution ι σ :=
  { y with
    events := x.events ++ y.events
    warnings := x.warnings ++ y.warnings }

theorem Execution.andThen_assoc (x y z : Execution ι σ) :
    (x.andThen y).andThen z = x.andThen (y.andThen z) := by
  simp only [andThen, List.append_assoc]

/-- What a round of notification leaves behind. -/
def Round.told (r : Round ι σ) : Execution ι σ :=
  ⟨r.calls.map Event.call, panicWarning r.panic, r.registry, r.state⟩

/-- The same with what follows, unless a listener panics. -/
def Round.andThen (r : Round ι σ) (rest : Registry ι → σ → Execution ι σ) : Execution ι σ :=
  match r.panic with
  | some _ => r.told
  | none => r.told.andThen (rest r.registry r.state)

theorem Round.andThen_nothing (r : Round ι σ) :
    (r.andThen fun registry state => ⟨[], [], registry, state⟩) = r.told := by
  unfold andThen
  split
  · rfl
  · simp [Execution.andThen, told]

/-- The first call of a round may as well come before it. -/
theorem Round.andThen_cons (r : Round ι σ) (c : Call ι)
    (rest : Registry ι → σ → Execution ι σ) (registry : Registry ι) (state : σ) :
    ({ r with calls := c :: r.calls } : Round ι σ).andThen rest =
      Execution.andThen ⟨[.call c], [], registry, state⟩ (r.andThen rest) := by
  unfold andThen
  cases hp : r.panic <;> simp [Execution.andThen, told, hp]

theorem Overlap.adopt_adopt (o : Overlap ι σ) (k : Nat) (e : Underway ι) (s t : Stage ι)
    (x y : Execution ι σ) :
    (o.adopt k e s x).adopt k { e with stage := s } t y = o.adopt k e t (x.andThen y) := by
  simp [adopt, Execution.andThen]

variable [DecidableEq ι] {b : Behaviour ι σ} {logFailures : Bool}

namespace Underway

/-- Whether an execution that goes on alone, from a registry and a state of the listeners' world,
ends and leaves this behind. -/
def Alone (b : Behaviour ι σ) (logFailures : Bool) (e : Underway ι) (registry : Registry ι)
    (state : σ) (x : Execution ι σ) : Prop :=
  ∀ (o : Overlap ι σ) (k : Nat), o.executions[k]? = some e → o.registry = registry →
    o.state = state → ∃ n, runSteps (Overlap.step b logFailures) o (List.replicate n (.advance k)) =
      some (o.adopt k e .ended x)

variable {e : Underway ι} {registry : Registry ι} {state : σ} {x y : Execution ι σ}

theorem alone_of_ended (h : e.stage = .ended) :
    e.Alone b logFailures registry state ⟨[], [], registry, state⟩ := by
  rintro o k hk rfl rfl
  obtain ⟨hlt, hget⟩ := List.getElem?_eq_some_iff.1 hk
  have hsame : { e with stage := .ended } = e := by rw [← h]
  have hset : o.executions.set k e = o.executions := by rw [← hget, List.set_getElem_self]
  refine ⟨0, ?_⟩
  simp only [Overlap.adopt, hsame, hset, List.map_nil, List.append_nil]
  rfl

theorem alone_of_advance {s : Stage ι} (h : e.advance b logFailures registry state = some (s, x))
    (hrest : Alone b logFailures { e with stage := s } x.registry x.state y) :
    e.Alone b logFailures registry state (x.andThen y) := by
  rintro o k hk rfl rfl
  have hlt : k < o.executions.length := (List.getElem?_eq_some_iff.1 hk).1
  have hstep : Overlap.step b logFailures o (.advance k) = some (o.adopt k e s x) := by
    simp only [Overlap.step, Overlap.advance, hk, h, Option.map_some]
  have hnext : (o.adopt k e s x).executions[k]? = some { e with stage := s } := by
    simp [Overlap.adopt, hlt]
  obtain ⟨n, hn⟩ := hrest _ k hnext rfl rfl
  refine ⟨n + 1, ?_⟩
  rw [List.replicate_succ, runSteps, hstep, Option.bind_some, hn, Overlap.adopt_adopt]

variable {task : TaskId} {run : TaskRun ι}

/-- A round of notification, after which an execution goes on alone. -/
theorem alone_of_round (notice : Notice) (stage : List ι → Stage ι)
    {rest : Registry ι → σ → Execution ι σ}
    (hstage : ∀ l left registry state, advance b logFailures registry state
      ⟨task, run, stage (l :: left)⟩ = some (tell b task notice l (stage left) registry state))
    (hrest : ∀ registry state,
      Alone b logFailures ⟨task, run, stage []⟩ registry state (rest registry state))
    (left : List ι) (registry : Registry ι) (state : σ) :
    Alone b logFailures ⟨task, run, stage left⟩ registry state
      ((notifyEach b task notice left registry state).andThen rest) := by
  induction left generalizing registry state with
  | nil => exact hrest registry state
  | cons l left ih =>
    have htell := hstage l left registry state
    unfold tell at htell
    unfold notifyEach
    cases hp : (b state l task notice).panic with
    | some p =>
      simp only [hp] at htell ⊢
      exact alone_of_advance htell (alone_of_ended rfl)
    | none =>
      simp only [hp] at htell ⊢
      rw [Round.andThen_cons _ _ _ (registry.applyAll (b state l task notice).changes)
        (b state l task notice).state]
      exact alone_of_advance htell (ih _ _)

/-- The end of an execution, from the report of its outcome on. -/
theorem alone_of_ran (registry : Registry ι) (state : σ) :
    Alone b logFailures ⟨task, run, .ran⟩ registry state
      (Execution.andThen ⟨[], run.outcome.warnings task logFailures, registry, state⟩
        (notify b task run.outcome.notice registry state).told) := by
  have hend : ∀ registry state,
      Alone b logFailures ⟨task, run, .reporting []⟩ registry state ⟨[], [], registry, state⟩ :=
    fun registry state => alone_of_advance (x := ⟨[], [], registry, state⟩) rfl (alone_of_ended rfl)
  have hround := alone_of_round run.outcome.notice .reporting (fun _ _ _ _ => rfl) hend
    registry.listeners registry state
  rw [Round.andThen_nothing] at hround
  exact alone_of_advance rfl hround

/-- An execution is two rounds of notification with the task's run between. -/
theorem execute_eq_andThen (registry : Registry ι) (state : σ) :
    execute b logFailures task run registry state =
      (notify b task .started registry state).andThen fun registry state =>
        Execution.andThen ⟨[.ran task], [], registry.applyAll run.changes, state⟩
          (Execution.andThen
            ⟨[], run.outcome.warnings task logFailures, registry.applyAll run.changes, state⟩
            (notify b task run.outcome.notice (registry.applyAll run.changes) state).told) := by
  unfold execute Round.andThen
  cases hp : (notify b task .started registry state).panic with
  | some p => simp [Round.told, hp]
  | none => simp [Round.told, Execution.andThen, panicWarning, hp]

/-- **An execution that goes on alone is `execute`.** -/
theorem alone_of_waiting (registry : Registry ι) (state : σ) :
    Alone b logFailures ⟨task, run, .waiting⟩ registry state
      (execute b logFailures task run registry state) := by
  have hrun : ∀ registry state, Alone b logFailures ⟨task, run, .starting []⟩ registry state
      (Execution.andThen ⟨[.ran task], [], registry.applyAll run.changes, state⟩ _) :=
    fun registry state => alone_of_advance rfl (alone_of_ran _ _)
  have hround := alone_of_round .started .starting (fun _ _ _ _ => rfl) hrun registry.listeners
    registry state
  rw [execute_eq_andThen]
  exact alone_of_advance (x := ⟨[], [], registry, state⟩) rfl hround

end Underway

/-! ## Executions one after another -/

namespace Overlap

/-- The steps of executions one after another, the first of them at a place: each is dispatched and
then takes so many steps, with nothing between. -/
def inTurn : Nat → List Nat → List Step
  | _, [] => []
  | k, n :: counts => .dispatch :: List.replicate n (.advance k) ++ inTurn (k + 1) counts

/-- What executions have left behind. -/
def leftBehind (o : Overlap ι σ) : Execution ι σ :=
  ⟨o.log.map (·.2), o.warnings, o.registry, o.state⟩

end Overlap

/-- Jobs that are executed one after another leave this behind.  Each is dispatched once, in order,
and has ended when the next one is dispatched, since it takes no step later on. -/
def Execution.InTurn (b : Behaviour ι σ) (logFailures : Bool) (jobs : List (TaskId × TaskRun ι))
    (registry : Registry ι) (state : σ) (x : Execution ι σ) : Prop :=
  ∃ counts s, runSteps (Overlap.step b logFailures) (.start jobs registry state)
      (Overlap.inTurn 0 counts) = some s ∧
    s.Finished ∧ s.executions.map (fun e => (e.task, e.run)) = jobs ∧ s.leftBehind = x

/-- The next task is dispatched, and its execution goes on alone. -/
theorem exists_runSteps_eq_execute (b : Behaviour ι σ) (logFailures : Bool) {task : TaskId}
    {run : TaskRun ι} {rest : List (TaskId × TaskRun ι)} {o : Overlap ι σ}
    (hnext : o.undispatched = (task, run) :: rest) :
    ∃ n s, runSteps (Overlap.step b logFailures) o
        (.dispatch :: List.replicate n (.advance o.executions.length)) = some s ∧
      s.undispatched = rest ∧ s.executions = o.executions ++ [⟨task, run, .ended⟩] ∧
      s.leftBehind =
        o.leftBehind.andThen (execute b logFailures task run o.registry o.state) := by
  let p : Overlap ι σ :=
    { o with undispatched := rest, executions := o.executions ++ [⟨task, run, .waiting⟩] }
  have hdispatch : Overlap.step b logFailures o .dispatch = some p := by
    simp only [Overlap.step, Overlap.dispatch, hnext, p]
  have halone : Underway.Alone b logFailures ⟨task, run, .waiting⟩ o.registry o.state _ :=
    Underway.alone_of_waiting o.registry o.state
  obtain ⟨n, hn⟩ := halone p o.executions.length List.getElem?_concat_length rfl rfl
  let s := p.adopt o.executions.length ⟨task, run, .waiting⟩ .ended
    (execute b logFailures task run o.registry o.state)
  have hrun : runSteps (Overlap.step b logFailures) o
      (.dispatch :: List.replicate n (.advance o.executions.length)) = some s := by
    rw [runSteps, hdispatch, Option.bind_some, hn]
  refine ⟨n, s, hrun, rfl, ?_, ?_⟩
  · simp [s, Overlap.adopt, p]
  · simp [s, Overlap.leftBehind, Overlap.adopt, Execution.andThen, p, Function.comp_def]

/-- One after another, executions are `executeAll`. -/
theorem exists_runSteps_eq_executeAll (b : Behaviour ι σ) (logFailures : Bool)
    {jobs : List (TaskId × TaskRun ι)} {o : Overlap ι σ} (hjobs : o.undispatched = jobs)
    (hended : ∀ e ∈ o.executions, e.stage = .ended) :
    ∃ counts s, runSteps (Overlap.step b logFailures) o
        (Overlap.inTurn o.executions.length counts) = some s ∧
      s.Finished ∧
      s.executions.map (fun e => (e.task, e.run)) =
        o.executions.map (fun e => (e.task, e.run)) ++ jobs ∧
      s.leftBehind =
        o.leftBehind.andThen (executeAll b logFailures jobs o.registry o.state) := by
  induction jobs generalizing o with
  | nil =>
    exact ⟨[], o, rfl, ⟨hjobs, hended⟩, by simp,
      by simp [Overlap.leftBehind, Execution.andThen, executeAll]⟩
  | cons job rest ih =>
    obtain ⟨n, s, hrun, hrest, hexec, hleft⟩ := exists_runSteps_eq_execute b logFailures hjobs
    have hends : ∀ e ∈ s.executions, e.stage = .ended := by
      intro e he
      rw [hexec] at he
      rcases List.mem_append.1 he with he | he
      · exact hended e he
      · rw [List.mem_singleton.1 he]
    have hplace : s.executions.length = o.executions.length + 1 := by simp [hexec]
    obtain ⟨counts, s', hrun', hs', hexec', hleft'⟩ := ih hrest hends
    refine ⟨n :: counts, s', ?_, hs', ?_, ?_⟩
    · rw [Overlap.inTurn, runSteps_append, hrun, Option.bind_some, ← hplace, hrun']
    · rw [hexec', hexec]
      simp
    · have hregistry : s.registry = _ := congrArg Execution.registry hleft
      have hstate : s.state = _ := congrArg Execution.state hleft
      rw [hleft', hleft, hregistry, hstate, Execution.andThen_assoc]
      rfl

/-! ## One way to go on -/

namespace Overlap

variable {o o' s t : Overlap ι σ} {k : Nat} {counts counts' : List Nat}

/-- The steps of other executions leave an execution as it is. -/
theorem getElem?_executions_of_runSteps {steps : List Step} {e : Underway ι}
    (hsteps : Step.advance k ∉ steps) (hk : o.executions[k]? = some e)
    (h : runSteps (step b logFailures) o steps = some o') : o'.executions[k]? = some e := by
  refine runSteps_induction_of_mem (P := fun p => p.executions[k]? = some e) steps ?_ hk h
  intro j hj p q hp hstep
  cases j with
  | dispatch =>
    simp only [step, Overlap.dispatch] at hstep
    split at hstep
    · cases hstep
    · cases hstep
      rw [List.getElem?_append_left (List.getElem?_eq_some_iff.1 hp).1, hp]
  | advance j =>
    have hne : j ≠ k := fun heq => hsteps (heq ▸ hj)
    simp only [step, Overlap.advance] at hstep
    split at hstep
    · cases hstep
    · obtain ⟨a, -, rfl⟩ := Option.map_eq_some_iff.1 hstep
      exact (List.getElem?_set_ne hne).trans hp

theorem length_executions_of_replicate {n j : Nat}
    (h : runSteps (step b logFailures) o (List.replicate n (.advance j)) = some o') :
    o'.executions.length = o.executions.length := by
  refine runSteps_induction_of_mem
    (P := fun p => p.executions.length = o.executions.length) _ ?_ rfl h
  rintro k hk p q hp hstep
  rw [List.eq_of_mem_replicate hk, step, Overlap.advance] at hstep
  split at hstep
  · cases hstep
  · obtain ⟨a, -, rfl⟩ := Option.map_eq_some_iff.1 hstep
    exact List.length_set.trans hp

theorem length_executions_of_dispatch (h : o.step b logFailures .dispatch = some o') :
    o'.executions.length = o.executions.length + 1 := by
  simp only [step, Overlap.dispatch] at h
  split at h
  · cases h
  · cases h
    exact List.length_append

/-- Later executions begin at later places. -/
theorem advance_not_mem_inTurn {j : Nat} (h : j < k) : Step.advance j ∉ inTurn k counts := by
  induction counts generalizing k with
  | nil => exact List.not_mem_nil
  | cons n counts ih =>
    have hne : j ≠ k := Nat.ne_of_lt h
    simp [inTurn, List.mem_replicate, hne, ih (Nat.lt_succ_of_lt h)]

/-- What is finished in the end has ended before the next task is dispatched. -/
theorem step_advance_eq_none_of_finished (hk : k < o.executions.length)
    (h : runSteps (step b logFailures) o (inTurn (k + 1) counts) = some s) (hf : s.Finished) :
    o.step b logFailures (.advance k) = none := by
  have hget := List.getElem?_eq_getElem hk
  have hlast := getElem?_executions_of_runSteps (advance_not_mem_inTurn k.lt_succ_self) hget h
  have hended := hf.2 _ (List.mem_of_getElem? hlast)
  simp [step, Overlap.advance, hget, Underway.advance, hended]

/-- One after another, executions go on in one way only. -/
theorem inTurn_unique (hk : o.executions.length = k)
    (hs : runSteps (step b logFailures) o (inTurn k counts) = some s) (hsf : s.Finished)
    (ht : runSteps (step b logFailures) o (inTurn k counts') = some t) (htf : t.Finished) :
    s = t := by
  have hstuck : ∀ p : Overlap ι σ, p.Finished → p.step b logFailures .dispatch = none :=
    fun p hp => by simp only [step, Overlap.dispatch, hp.1]
  induction counts generalizing o k counts' with
  | nil =>
    cases hs
    cases counts' with
    | nil => exact Option.some.inj ht
    | cons n' counts' =>
      obtain ⟨p, hp, -⟩ := Option.bind_eq_some_iff.1 ht
      cases (hstuck _ hsf).symm.trans hp
  | cons n counts ih =>
    obtain ⟨p, hp, hs⟩ := Option.bind_eq_some_iff.1 hs
    cases counts' with
    | nil =>
      cases ht
      cases (hstuck _ htf).symm.trans hp
    | cons n' counts' =>
      obtain ⟨p', hp', ht⟩ := Option.bind_eq_some_iff.1 ht
      obtain rfl := Option.some.inj (hp.symm.trans hp')
      obtain ⟨q, hq, hs⟩ := Option.bind_eq_some_iff.1 ((runSteps_append ..).symm.trans hs)
      obtain ⟨q', hq', ht⟩ := Option.bind_eq_some_iff.1 ((runSteps_append ..).symm.trans ht)
      have hlength : p.executions.length = k + 1 := hk ▸ length_executions_of_dispatch hp
      have hqlength := (length_executions_of_replicate hq).trans hlength
      have hqlength' := (length_executions_of_replicate hq').trans hlength
      -- Both go on until the execution has ended, and from there on the same way.
      obtain rfl := runSteps_replicate_unique hq
        (step_advance_eq_none_of_finished (by omega) hs hsf) hq'
        (step_advance_eq_none_of_finished (by omega) ht htf)
      exact ih hqlength hs ht

end Overlap

/-- **One after another, executions are `executeAll`**, and nothing else. -/
theorem Execution.inTurn_iff {jobs : List (TaskId × TaskRun ι)} {registry : Registry ι} {state : σ}
    {x : Execution ι σ} :
    x.InTurn b logFailures jobs registry state ↔
      x = executeAll b logFailures jobs registry state := by
  obtain ⟨counts, s, hs, hf, hexec, hleft⟩ :=
    exists_runSteps_eq_executeAll b logFailures (o := .start jobs registry state) rfl
      (List.forall_mem_nil _)
  constructor
  · rintro ⟨counts', t, ht, htf, -, rfl⟩
    rw [Overlap.inTurn_unique rfl ht htf hs hf]
    exact hleft
  · rintro rfl
    exact ⟨counts, s, hs, hf, hexec, hleft⟩

end Crontab
