import Crontab.Proofs.Lifecycle.LiveLoops

/-!
# Launches in flight when a scheduler is stopped

A stop waits for the loop and not for the launches that the loop's ticks have begun.  When it has
returned no tick fires, but a launch that is still in flight looks at the table that it finds, tasks
added after the stop among them.

* `Launched` — every tick's launch is in flight or has dispatched, once.
* `Lifecycle.Quiet`, `Quiet.step_cases` — a stopped scheduler with no stop under way, and the two
  things that can happen to it without a start.
* `Quiet.of_runSteps` — what is dispatched until the next start.
* `dispatched_after_stop` — after a stop only launches in flight dispatch, each at most once.
* `late_task_dispatched_after_stop` — one of them dispatches a task that was added after the stop.
-/

set_option autoImplicit false

namespace Crontab.Lifecycle

variable {τ ι : Type}

/-- The tasks that a launch for a tick finds to be due. -/
def dueAt (s : Lifecycle τ ι) (t : LoopTick) : List TaskId :=
  (s.scheduler.table.due s.scheduler.zone t.time t.timer.matchSecond).map (·.1)

/-! ## Launches and ticks -/

/-- Every tick has one launch, which is in flight or has dispatched. -/
def Launched (s : Lifecycle τ ι) : Prop := (s.dispatched.map (·.1) ++ s.launches).Perm s.ticks

theorem launch_cases {s s' : Lifecycle τ ι} {k : Nat} (h : s.launch k = some s') :
    ∃ t, s.launches[k]? = some t ∧ s' = { s with
      launches := s.launches.eraseIdx k
      dispatched := s.dispatched ++ [(t, s.dueAt t)] } := by
  obtain ⟨t, ht, h⟩ := Option.bind_eq_some_iff.1 h
  cases h
  exact ⟨t, ht, rfl⟩

namespace Launched

variable {s s' : Lifecycle τ ι}

theorem turn (h : s.Launched) {k : Nat} (hs : s.turn k = some s') : s'.Launched := by
  obtain ⟨l, -, hs⟩ := Option.bind_eq_some_iff.1 hs
  split at hs
  · cases hs
    unfold Launched
    rw [← List.append_assoc]
    exact h.append_right _
  all_goals
    cases hs
    exact h

theorem launch (h : s.Launched) {k : Nat} (hs : s.launch k = some s') : s'.Launched := by
  obtain ⟨t, ht, rfl⟩ := launch_cases hs
  unfold Launched
  rw [List.map_append, List.append_assoc]
  exact ((perm_cons_eraseIdx ht).symm.append_left _).trans h

theorem step [DecidableEq ι] (h : s.Launched) (e : Step τ ι) (hs : s.step e = some s') :
    s'.Launched := by
  cases e with
  | call c =>
    simp only [Lifecycle.step] at hs
    split at hs
    · cases hs
    · cases hs
      exact h
  | start clock =>
    cases hs
    obtain heq | ⟨-, timer, heq⟩ := s.start_cases clock
    · rwa [heq]
    · rw [heq]
      exact h
  | take =>
    cases hs
    unfold Lifecycle.take
    split
    · exact h
    · exact h
  | signal k =>
    obtain ⟨call, -, hs⟩ := Option.bind_eq_some_iff.1 hs
    split at hs
    · cases hs
    · cases hs
      exact h
  | stopReturns k =>
    obtain ⟨call, -, hs⟩ := Option.bind_eq_some_iff.1 hs
    split at hs
    · cases hs
      exact h
    · cases hs
  | turn k => exact h.turn hs
  | launch k => exact h.launch hs

end Launched

/-! ## After a stop -/

/-- A scheduler that is stopped, and all of whose stops have returned. -/
structure Quiet (s : Lifecycle τ ι) : Prop where
  owned : s.Owned
  stopped : s.scheduler.isStarted = false
  returned : s.stops = []

namespace Quiet

variable {s s' : Lifecycle τ ι}

theorem loops (h : s.Quiet) : s.loops = [] := by
  have hlength := h.owned.length_loops
  rw [h.stopped, h.returned] at hlength
  exact List.length_eq_zero_iff.1 (Nat.le_zero.1 hlength)

variable [DecidableEq ι]

/-- Without a start, either a caller does something that leaves the timer alone, or a launch in
flight dispatches. -/
theorem step_cases (h : s.Quiet) {e : Step τ ι} (he : e.isStart = false)
    (hs : s.step e = some s') :
    (∃ scheduler : Scheduler τ ι, scheduler.isStarted = false ∧ s' = { s with scheduler }) ∨
    ∃ k t, s.launches[k]? = some t ∧ s' = { s with
      launches := s.launches.eraseIdx k
      dispatched := s.dispatched ++ [(t, s.dueAt t)] } := by
  cases e with
  | start clock => cases he
  | call c =>
    simp only [Lifecycle.step] at hs
    split at hs
    · cases hs
    · rename_i hc
      cases hs
      refine .inl ⟨_, ?_, rfl⟩
      rw [Scheduler.isStarted, Scheduler.timer_perform (Bool.eq_false_iff.2 hc)]
      exact h.stopped
  | take =>
    cases hs
    obtain heq | ⟨n, hn, -⟩ := s.take_cases h.owned.held
    · exact .inl ⟨s.scheduler, h.stopped, heq⟩
    · -- A stopped scheduler holds no timer that could be taken.
      have hheld := h.owned.held
      rw [hn, h.stopped] at hheld
      cases hheld
  | signal k =>
    obtain ⟨call, hcall, -⟩ := Option.bind_eq_some_iff.1 hs
    rw [h.returned] at hcall
    cases hcall
  | stopReturns k =>
    obtain ⟨call, hcall, -⟩ := Option.bind_eq_some_iff.1 hs
    rw [h.returned] at hcall
    cases hcall
  | turn k =>
    obtain ⟨l, hl, -⟩ := Option.bind_eq_some_iff.1 hs
    rw [h.loops] at hl
    cases hl
  | launch k =>
    obtain ⟨t, ht, rfl⟩ := launch_cases hs
    exact .inr ⟨k, t, ht, rfl⟩

theorem step (h : s.Quiet) {e : Step τ ι} (he : e.isStart = false) (hs : s.step e = some s') :
    s'.Quiet := by
  have howned := h.owned.step e hs
  obtain ⟨scheduler, hstopped, rfl⟩ | ⟨k, t, -, rfl⟩ := h.step_cases he hs
  · exact ⟨howned, hstopped, h.returned⟩
  · exact ⟨howned, h.stopped, h.returned⟩

/-- Until the next start no loop is alive and no tick fires, and what is dispatched is dispatched by
launches in flight, each of which finds what is due at its moment. -/
theorem of_runSteps (h : s.Quiet) {steps : List (Step τ ι)}
    (hsteps : ∀ e ∈ steps, e.isStart = false) (hrun : runSteps Lifecycle.step s steps = some s') :
    s'.Quiet ∧ s'.ticks = s.ticks ∧ ∃ late, s'.dispatched = s.dispatched ++ late ∧
      (late.map (·.1) ++ s'.launches).Perm s.launches ∧
      ∀ d ∈ late, ∃ early u, early <+: steps ∧ runSteps Lifecycle.step s early = some u ∧
        d.2 = u.dueAt d.1 := by
  induction steps generalizing s with
  | nil =>
    cases hrun
    exact ⟨h, rfl, [], (List.append_nil _).symm, .refl _, List.forall_mem_nil _⟩
  | cons e steps ih =>
    obtain ⟨he, hsteps⟩ := List.forall_mem_cons.1 hsteps
    obtain ⟨u, hu, hrest⟩ := Option.bind_eq_some_iff.1 hrun
    obtain ⟨hquiet, hticks, late, hlate, hperm, hdue⟩ := ih (h.step he hu) hsteps hrest
    have hlater : ∀ d ∈ late, ∃ early v, early <+: e :: steps ∧
        runSteps Lifecycle.step s early = some v ∧ d.2 = v.dueAt d.1 := by
      intro d hd
      obtain ⟨early, v, hearly, hv, hd⟩ := hdue d hd
      refine ⟨e :: early, v, List.prefix_cons_inj e |>.2 hearly, ?_, hd⟩
      rw [runSteps, hu, Option.bind_some, hv]
    obtain ⟨scheduler, -, rfl⟩ | ⟨k, t, ht, rfl⟩ := h.step_cases he hu
    · exact ⟨hquiet, hticks, late, hlate, hperm, hlater⟩
    · refine ⟨hquiet, hticks, (t, s.dueAt t) :: late, ?_, ?_, ?_⟩
      · rw [hlate, List.append_assoc]
        rfl
      · exact (hperm.cons t).trans (perm_cons_eraseIdx ht).symm
      · exact List.forall_mem_cons.2 ⟨⟨[], s, List.nil_prefix, rfl, rfl⟩, hlater⟩

end Quiet

variable [DecidableEq ι]

theorem launched_of_runSteps {scheduler : Scheduler τ ι} {steps : List (Step τ ι)}
    {s : Lifecycle τ ι} (h : runSteps step (.ofScheduler scheduler) steps = some s) :
    s.Launched := by
  have hnone : (ofScheduler scheduler).Launched := List.Perm.nil
  exact runSteps_induction (fun _ e _ hs he => hs.step e he) steps hnone h

/-- **What is dispatched after a stop.**  A stop returns and leaves the scheduler stopped, with no
other stop under way.  Until the next start no loop is alive and no tick fires, and whatever callers
do, only the launches dispatch that were in flight when the stop returned, each at most once.  Such a
launch is that of a tick that had fired before, and it dispatches what is due, at the time of its
tick, in the table and zone that it finds when its turn comes.  If no launch was in flight, nothing is
dispatched. -/
theorem dispatched_after_stop {scheduler : Scheduler τ ι} (h₀ : scheduler.isStarted = false)
    {before after : List (Step τ ι)} {k : Nat} {s s' : Lifecycle τ ι}
    (hstop : runSteps step (.ofScheduler scheduler) (before ++ [.stopReturns k]) = some s)
    (hstopped : s.scheduler.isStarted = false) (hreturned : s.stops = [])
    (hafter : ∀ e ∈ after, e.isStart = false) (hrun : runSteps step s after = some s') :
    s'.loops = [] ∧ s'.ticks = s.ticks ∧
    (∃ late, s'.dispatched = s.dispatched ++ late ∧
      (late.map (·.1) ++ s'.launches).Perm s.launches ∧
      ∀ d ∈ late, d.1 ∈ s.ticks ∧ ∃ early u, early <+: after ∧ runSteps step s early = some u ∧
        d.2 = (u.scheduler.table.due u.scheduler.zone d.1.time d.1.timer.matchSecond).map (·.1)) ∧
    (s.launches = [] → s'.dispatched = s.dispatched) := by
  have hquiet : s.Quiet := ⟨owned_of_runSteps h₀ hstop, hstopped, hreturned⟩
  obtain ⟨hquiet', hticks, late, hlate, hperm, hdue⟩ := hquiet.of_runSteps hafter hrun
  have hfired : ∀ d ∈ late, d.1 ∈ s.ticks := by
    intro d hd
    have hflight : d.1 ∈ s.launches :=
      hperm.subset (List.mem_append_left _ (List.mem_map_of_mem hd))
    exact (launched_of_runSteps hstop).subset (List.mem_append_right _ hflight)
  refine ⟨hquiet'.loops, hticks, ⟨late, hlate, hperm, fun d hd => ⟨hfired d hd, hdue d hd⟩⟩, ?_⟩
  intro hnone
  rw [hnone] at hperm
  have hempty := List.append_eq_nil_iff.1 hperm.eq_nil
  rw [hlate, List.map_eq_nil_iff.1 hempty.1, List.append_nil]

/-- A launch that has had its turn when the scheduler is stopped leaves nothing to be dispatched. -/
theorem nothing_dispatched_after_stop :
    let clock := Tick.Clock.ofScript [0, 0, 60000]
    let late : Step Unit Unit := .call (.scheduleWithId (.named "late") "* * * * *" ())
    ∃ s s' : Lifecycle Unit Unit,
      runSteps step (.ofScheduler (.new (.fixed 0)))
        ([.start clock, .turn 0, .launch 0, .take, .signal 0, .turn 0] ++ [.stopReturns 0]) =
          some s ∧
      s.scheduler.isStarted = false ∧ s.stops = [] ∧ s.launches = [] ∧
      (∀ e ∈ [late], e.isStart = false) ∧ runSteps step s [late] = some s' ∧
      s'.scheduler.table.ids = [.named "late"] ∧ s'.dispatched = s.dispatched := by
  intro clock late
  have hseen : (runSteps step (.ofScheduler (.new (.fixed 0)) : Lifecycle Unit Unit)
      ([.start clock, .turn 0, .launch 0, .take, .signal 0, .turn 0] ++ [.stopReturns 0])).any
        (fun s => !s.scheduler.isStarted && s.stops.isEmpty && s.launches.isEmpty &&
          (runSteps step s [late]).any fun s' => s'.scheduler.table.ids == [.named "late"]) =
        true := by
    decide +kernel
  obtain ⟨s, hs, hseen⟩ := (Option.any_eq_true _ _).1 hseen
  simp only [Bool.and_eq_true, Bool.not_eq_true', List.isEmpty_iff] at hseen
  obtain ⟨⟨⟨hstopped, hreturned⟩, hlaunches⟩, hseen⟩ := hseen
  obtain ⟨s', hs', hids⟩ := (Option.any_eq_true _ _).1 hseen
  have hafter : ∀ e ∈ [late], e.isStart = false := by
    rintro e he
    rw [List.mem_singleton.1 he]
    rfl
  have hnothing := dispatched_after_stop rfl hs hstopped hreturned hafter hs'
  exact ⟨s, s', hs, hstopped, hreturned, hlaunches, hafter, hs', beq_iff_eq.1 hids,
    hnothing.2.2.2 hlaunches⟩

/-- A task that is added after a stop has returned is dispatched by the launch of a tick that fired
before, whether or not the table has been cleared in between. -/
theorem late_task_dispatched_after_stop :
    let clock := Tick.Clock.ofScript [0, 0, 60000]
    let late : Step Unit Unit := .call (.scheduleWithId (.named "late") "* * * * *" ())
    ∃ s : Lifecycle Unit Unit,
      runSteps step (.ofScheduler (.new (.fixed 0)))
        [.start clock, .turn 0, .take, .signal 0, .turn 0, .stopReturns 0] = some s ∧
      s.scheduler.isStarted = false ∧ s.stops = [] ∧ s.scheduler.table.ids = [] ∧
      ∀ cleared ∈ [[], [.call .clear]], ∃ s',
        runSteps step s (cleared ++ [late, .launch 0]) = some s' ∧
        s'.scheduler.isStarted = false ∧
        s'.dispatched.map (fun d => (d.1.time, d.2)) = [(60000, [.named "late"])] := by
  intro clock late
  have hseen : (runSteps step (.ofScheduler (.new (.fixed 0)) : Lifecycle Unit Unit)
      [.start clock, .turn 0, .take, .signal 0, .turn 0, .stopReturns 0]).any
        (fun s => !s.scheduler.isStarted && s.stops.isEmpty && s.scheduler.table.ids.isEmpty &&
          [[], [.call .clear]].all fun cleared =>
            (runSteps step s (cleared ++ [late, .launch 0])).any fun s' =>
              !s'.scheduler.isStarted && s'.dispatched.map (fun d => (d.1.time, d.2)) ==
                [(60000, [.named "late"])]) = true := by
    decide +kernel
  obtain ⟨s, hs, hseen⟩ := (Option.any_eq_true _ _).1 hseen
  simp only [Bool.and_eq_true, Bool.not_eq_true', List.isEmpty_iff, List.all_eq_true] at hseen
  obtain ⟨⟨⟨hstopped, hreturned⟩, hids⟩, hseen⟩ := hseen
  refine ⟨s, hs, hstopped, hreturned, hids, fun cleared hc => ?_⟩
  obtain ⟨s', hs', hseen'⟩ := (Option.any_eq_true _ _).1 (hseen cleared hc)
  simp only [Bool.and_eq_true, Bool.not_eq_true', beq_iff_eq] at hseen'
  exact ⟨s', hs', hseen'.1, hseen'.2⟩

end Crontab.Lifecycle
