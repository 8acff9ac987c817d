import Crontab.Lifecycle
import Crontab.Proofs.Places
import Crontab.Proofs.Scheduler.Commands
import Mathlib.Data.List.Nodup
import Mathlib.Data.List.Perm.Subperm

/-!
# Live loops of a scheduler

Between taking the timer away and the end of its loop a stop leaves the scheduler stopped with the
loop alive, so that a start can begin another one.

* `Lifecycle.Owned` — every live loop belongs to the scheduler's timer or to a stop under way.
* `start_cases`, `take_cases`, `turn_cases`, `signal_cases` — what a step does.
* `Owned.step`, `owned_of_runSteps` — every step leaves each loop its owner.
* `live_loops_bounded` — there is at most one live loop more than there are stops under way, and at
  most one if callers start the scheduler only when every stop has returned.
* `two_loops_tick_one_boundary` — a start in the middle of a stop.
-/

set_option autoImplicit false

namespace Crontab

namespace Scheduler

variable {τ ι : Type}

/-- Only starting and stopping change the timer. -/
theorem timer_perform [DecidableEq ι] {c : Command τ ι} (h : c.isLifecycle = false)
    (s : Scheduler τ ι) : ((perform c).after s).timer = s.timer := by
  by_cases hc : c.isAboutTable
  · obtain ⟨table, generated, hafter⟩ := (aboutTable_perform hc).keeps s
    rw [hafter]
  · cases c with
    | setDaemon value | setMatchSecond value =>
      rw [perform, bind_pure_comp, Attempt.after_map, after_changeSetting]
      split <;> rfl
    | setTimeZone zone | addListener l | removeListener l => rfl
    | start | stop | stopAndClear => cases h
    | _ => exact absurd rfl hc

end Scheduler

namespace Lifecycle

variable {τ ι : Type}

/-- The numbers of the live loops. -/
def serials (s : Lifecycle τ ι) : List Nat := s.loops.map (·.serial)

/-- Every live loop is that of the timer that the scheduler holds, or of one that a stop under way
has taken. -/
structure Owned (s : Lifecycle τ ι) : Prop where
  distinct : s.serials.Nodup
  begun : ∀ n ∈ s.serials, n < s.begun
  owners : s.serials ⊆ s.held.toList ++ s.stops.map (·.serial)
  held : s.held.isSome = s.scheduler.isStarted

/-! ## What a step does -/

/-- A start is refused and changes nothing, or begins a loop of a scheduler that was stopped. -/
theorem start_cases (s : Lifecycle τ ι) (clock : Tick.Clock) :
    s.start clock = s ∨ s.scheduler.isStarted = false ∧ ∃ timer, s.start clock = { s with
      scheduler := { s.scheduler with timer := some timer }
      held := some s.begun
      loops := s.loops ++ [⟨s.begun, timer, clock, ⟨clock 0, 1, .waiting⟩⟩]
      begun := s.begun + 1 } := by
  unfold Lifecycle.start
  by_cases hs : s.scheduler.isStarted
  · left
    rw [Scheduler.result_start, Scheduler.after_start, if_pos hs, if_pos hs]
  · rw [Scheduler.result_start, Scheduler.after_start, if_neg hs, if_neg hs]
    cases ho : Scheduler.checkOptions s.scheduler.options with
    | error e => exact .inl rfl
    | ok x => exact .inr ⟨Bool.eq_false_iff.2 hs, _, rfl⟩

/-- A stop is refused and changes nothing, or takes the timer that the scheduler holds. -/
theorem take_cases (s : Lifecycle τ ι) (h : s.held.isSome = s.scheduler.isStarted) :
    s.take = s ∨ ∃ n, s.held = some n ∧ s.take = { s with
      scheduler := { s.scheduler with timer := none }
      held := none
      stops := s.stops ++ [⟨n, false⟩] } := by
  unfold Lifecycle.take
  obtain hheld | ⟨n, hheld⟩ := Option.eq_none_or_eq_some s.held
  · have hrefused : Scheduler.stop.result s.scheduler = .error .notStarted := by
      rw [Scheduler.result_stop, ← h, hheld]
      rfl
    rw [hrefused, Scheduler.allOrNothing_stop hrefused]
    exact .inl rfl
  · rw [Scheduler.result_stop, Scheduler.after_stop, ← h, hheld]
    exact .inr ⟨n, rfl, rfl⟩

/-- A turn keeps the loop or ends it, and no one else is concerned. -/
theorem turn_cases {s s' : Lifecycle τ ι} {k : Nat} (h : s.turn k = some s') :
    s'.serials.Sublist s.serials ∧ s'.begun = s.begun ∧ s'.held = s.held ∧ s'.stops = s.stops ∧
      s'.scheduler = s.scheduler := by
  obtain ⟨l, hl, h⟩ := Option.bind_eq_some_iff.1 h
  split at h
  · rename_i firing jump next hturn
    cases h
    have hsame : (s.loops.set k { l with state := next }).map (·.serial) = s.serials :=
      map_set_of_getElem? hl rfl
    exact ⟨hsame ▸ List.Sublist.refl _, rfl, rfl, rfl, rfl⟩
  all_goals
    cases h
    exact ⟨(List.eraseIdx_sublist _ _).map _, rfl, rfl, rfl, rfl⟩

/-- A signal reaches a loop and ends none. -/
theorem signal_cases {s s' : Lifecycle τ ι} {k : Nat} (h : s.signal k = some s') :
    s'.serials = s.serials ∧ s'.begun = s.begun ∧ s'.held = s.held ∧
      s'.stops.map (·.serial) = s.stops.map (·.serial) ∧ s'.scheduler = s.scheduler := by
  obtain ⟨call, hcall, h⟩ := Option.bind_eq_some_iff.1 h
  split at h
  · cases h
  · cases h
    refine ⟨?_, rfl, rfl, map_set_of_getElem? hcall rfl, rfl⟩
    rw [serials, List.map_map]
    refine List.map_congr_left fun l _ => ?_
    simp only [Function.comp_apply]
    split <;> rfl

namespace Owned

variable {s s' : Lifecycle τ ι}

theorem ofScheduler {s : Scheduler τ ι} (h : s.isStarted = false) :
    (Lifecycle.ofScheduler s).Owned :=
  ⟨List.nodup_nil, nofun, nofun, h.symm⟩

theorem start (h : s.Owned) (clock : Tick.Clock) : (s.start clock).Owned := by
  obtain heq | ⟨hs, timer, heq⟩ := s.start_cases clock
  · rwa [heq]
  · have hserials : (s.start clock).serials = s.serials ++ [s.begun] := by simp [heq, serials]
    have hfresh : s.begun ∉ s.serials := fun hmem => Nat.lt_irrefl _ (h.begun _ hmem)
    -- A stopped scheduler holds no timer, so that the loops alive are those of stops under way.
    have howners : s.serials ⊆ s.stops.map (·.serial) := by
      have hheld := h.held
      rw [hs, Option.isSome_eq_false_iff, Option.isNone_iff_eq_none] at hheld
      simpa [hheld] using h.owners
    constructor
    · rw [hserials]
      exact List.nodup_append.2 ⟨h.distinct, List.nodup_singleton _, by
        rintro n hn m hm rfl
        exact hfresh (List.mem_singleton.1 hm ▸ hn)⟩
    · intro n hn
      rw [hserials, List.mem_append, List.mem_singleton] at hn
      rw [heq]
      obtain hn | rfl := hn
      · exact Nat.lt_succ_of_lt (h.begun n hn)
      · exact Nat.lt_succ_self _
    · intro n hn
      rw [hserials, List.mem_append, List.mem_singleton] at hn
      rw [heq]
      obtain hn | rfl := hn
      · exact List.mem_cons_of_mem _ (howners hn)
      · exact List.mem_cons_self
    · rw [heq]
      rfl

theorem take (h : s.Owned) : s.take.Owned := by
  obtain heq | ⟨n, hn, heq⟩ := s.take_cases h.held
  · rwa [heq]
  · have howners := h.owners
    rw [heq]
    refine ⟨h.distinct, h.begun, fun m hm => ?_, rfl⟩
    rw [hn] at howners
    simpa [or_comm] using howners hm

theorem signal (h : s.Owned) {k : Nat} (hs : s.signal k = some s') : s'.Owned := by
  obtain ⟨hserials, hbegun, hheld, hstops, hscheduler⟩ := signal_cases hs
  constructor
  · rw [hserials]
    exact h.distinct
  · rw [hserials, hbegun]
    exact h.begun
  · rw [hserials, hheld, hstops]
    exact h.owners
  · rw [hheld, hscheduler]
    exact h.held

theorem turn (h : s.Owned) {k : Nat} (hs : s.turn k = some s') : s'.Owned := by
  obtain ⟨hserials, hbegun, hheld, hstops, hscheduler⟩ := turn_cases hs
  constructor
  · exact h.distinct.sublist hserials
  · rw [hbegun]
    exact fun n hn => h.begun n (hserials.subset hn)
  · rw [hheld, hstops]
    exact fun n hn => h.owners (hserials.subset hn)
  · rw [hheld, hscheduler]
    exact h.held

theorem stopReturns (h : s.Owned) {k : Nat} (hs : s.stopReturns k = some s') : s'.Owned := by
  obtain ⟨call, hcall, hs⟩ := Option.bind_eq_some_iff.1 hs
  split at hs
  · rename_i hended
    cases hs
    refine ⟨h.distinct, h.begun, fun n hn => ?_, h.held⟩
    simp only [Bool.and_eq_true, List.all_eq_true, decide_eq_true_eq] at hended
    obtain hheld | hstop := List.mem_append.1 (h.owners hn)
    · exact List.mem_append_left _ hheld
    · -- The loop of the stop that returns has ended, so the owner is another one.
      obtain ⟨c, hc, rfl⟩ := List.mem_map.1 hstop
      obtain ⟨l, hl, hln⟩ := List.mem_map.1 hn
      have hother : c ≠ call := fun heq => hended.2 l hl (heq ▸ hln)
      exact List.mem_append_right _ (List.mem_map_of_mem (mem_eraseIdx_of_ne hcall hc hother))
  · cases hs

theorem launch (h : s.Owned) {k : Nat} (hs : s.launch k = some s') : s'.Owned := by
  obtain ⟨t, ht, hs⟩ := Option.bind_eq_some_iff.1 hs
  cases hs
  exact ⟨h.distinct, h.begun, h.owners, h.held⟩

/-- Every step leaves each live loop an owner. -/
theorem step [DecidableEq ι] (h : s.Owned) (e : Step τ ι) (hs : s.step e = some s') :
    s'.Owned := by
  cases e with
  | call c =>
    simp only [Lifecycle.step] at hs
    split at hs
    · cases hs
    · rename_i hc
      cases hs
      refine ⟨h.distinct, h.begun, h.owners, ?_⟩
      rw [h.held, Scheduler.isStarted, Scheduler.isStarted,
        Scheduler.timer_perform (Bool.eq_false_iff.2 hc)]
  | start clock =>
    cases hs
    exact h.start clock
  | take =>
    cases hs
    exact h.take
  | signal k => exact h.signal hs
  | stopReturns k => exact h.stopReturns hs
  | turn k => exact h.turn hs
  | launch k => exact h.launch hs

/-- Live loops are no more than the timer that is held and the stops under way. -/
theorem length_loops (h : s.Owned) :
    s.loops.length ≤ (if s.scheduler.isStarted then 1 else 0) + s.stops.length := by
  -- Different loops have different owners.
  have hle := (List.subperm_of_subset h.distinct h.owners).length_le
  rw [← h.held]
  cases hheld : s.held <;> simpa [serials, hheld, Nat.add_comm] using hle

end Owned

theorem owned_of_runSteps [DecidableEq ι] {scheduler : Scheduler τ ι}
    (h₀ : scheduler.isStarted = false) {steps : List (Step τ ι)} {s : Lifecycle τ ι}
    (h : runSteps step (.ofScheduler scheduler) steps = some s) : s.Owned :=
  runSteps_induction (fun _ e _ hs he => hs.step e he) steps (.ofScheduler h₀) h

/-! ## Starts that wait for the stops -/

/-- Whether a step begins a loop. -/
def Step.isStart : Step τ ι → Bool
  | .start _ => true
  | _ => false

/-- A step of callers who start the scheduler only when every stop has returned. -/
def stepInTurn [DecidableEq ι] (s : Lifecycle τ ι) (e : Step τ ι) : Option (Lifecycle τ ι) :=
  if e.isStart && !s.stops.isEmpty then none else s.step e

/-- How many there are to whom a live loop can belong. -/
def owners (s : Lifecycle τ ι) : Nat := s.held.toList.length + s.stops.length

variable [DecidableEq ι]

/-- Only a start makes for one owner more. -/
theorem owners_step {s s' : Lifecycle τ ι} (h : s.Owned) {e : Step τ ι} (he : e.isStart = false)
    (hs : s.step e = some s') : s'.owners ≤ s.owners := by
  cases e with
  | start clock => cases he
  | call c =>
    simp only [step] at hs
    split at hs
    · cases hs
    · cases hs
      exact Nat.le_refl _
  | take =>
    cases hs
    obtain heq | ⟨n, hn, heq⟩ := s.take_cases h.held
    · exact Nat.le_of_eq (congrArg owners heq)
    · rw [heq]
      simp [owners, hn, Nat.add_comm]
  | signal k =>
    obtain ⟨-, -, hheld, hstops, -⟩ := signal_cases hs
    have hlength := congrArg List.length hstops
    simp only [List.length_map] at hlength
    exact Nat.le_of_eq (by rw [owners, hheld, hlength, owners])
  | turn k =>
    obtain ⟨-, -, hheld, hstops, -⟩ := turn_cases hs
    exact Nat.le_of_eq (by rw [owners, hheld, hstops, owners])
  | stopReturns k =>
    obtain ⟨call, -, hs⟩ := Option.bind_eq_some_iff.1 hs
    split at hs
    · cases hs
      exact Nat.add_le_add_left (List.eraseIdx_sublist _ _).length_le _
    · cases hs
  | launch k =>
    obtain ⟨t, -, hs⟩ := Option.bind_eq_some_iff.1 hs
    cases hs
    exact Nat.le_refl _

/-- Every live loop has an owner, and there is at most one owner. -/
structure OneOwner (s : Lifecycle τ ι) : Prop where
  owned : s.Owned
  one : s.owners ≤ 1

theorem OneOwner.step {s s' : Lifecycle τ ι} (h : s.OneOwner) (e : Step τ ι)
    (hs : s.stepInTurn e = some s') : s'.OneOwner := by
  unfold stepInTurn at hs
  split at hs
  · cases hs
  · rename_i hturn
    refine ⟨h.owned.step e hs, ?_⟩
    cases he : e.isStart with
    | false => exact Nat.le_trans (owners_step h.owned he hs) h.one
    | true =>
      obtain ⟨clock, rfl⟩ : ∃ clock, e = .start clock := by
        cases e with
        | start clock => exact ⟨clock, rfl⟩
        | _ => cases he
      have hstops : s.stops = [] := by simpa [he] using hturn
      cases hs
      obtain heq | ⟨-, timer, heq⟩ := s.start_cases clock
      · rw [heq]
        exact h.one
      · simp [heq, owners, hstops]

/-- **How many loops can be alive.**  Whatever callers do on any threads, there is at most one live
loop more than there are stops under way, and loops that live at the same time have begun with
different starts; when no stop is under way at most one is alive.  Of callers who start the
scheduler only when every stop has returned, at most one loop is alive at any moment. -/
theorem live_loops_bounded (scheduler : Scheduler τ ι) (h₀ : scheduler.isStarted = false)
    (steps : List (Step τ ι)) :
    (∀ s, runSteps step (.ofScheduler scheduler) steps = some s →
      s.serials.Nodup ∧
      s.loops.length ≤ (if s.scheduler.isStarted then 1 else 0) + s.stops.length ∧
      (s.stops = [] → s.loops.length ≤ 1)) ∧
    ∀ s, runSteps stepInTurn (.ofScheduler scheduler) steps = some s → s.loops.length ≤ 1 := by
  refine ⟨fun s h => ?_, fun s h => ?_⟩
  · have hs := owned_of_runSteps h₀ h
    have hlength := hs.length_loops
    refine ⟨hs.distinct, hlength, fun hstops => ?_⟩
    rw [hstops] at hlength
    split at hlength <;> simp only [List.length_nil] at hlength <;> omega
  · have hs : s.OneOwner := runSteps_induction (fun _ e _ hs he => hs.step e he) steps
      ⟨.ofScheduler h₀, Nat.zero_le _⟩ h
    have hle := (List.subperm_of_subset hs.owned.distinct hs.owned.owners).length_le
    have := hs.one
    simp only [serials, owners, List.length_map, List.length_append] at hle this
    omega

/-- A stop runs to its end before the next start: the first loop ticks, ends on the signal, and only
the second one is alive. -/
theorem one_loop_after_stop :
    let clock := Tick.Clock.ofScript [0, 0, 60000]
    ∃ s : Lifecycle Unit Unit,
      runSteps stepInTurn (.ofScheduler (.new (.fixed 0)))
        [.start clock, .turn 0, .take, .signal 0, .turn 0, .stopReturns 0, .start clock] =
          some s ∧
      s.serials = [1] ∧ s.loops.length ≤ 1 := by
  intro clock
  have hseen : (runSteps stepInTurn (.ofScheduler (.new (.fixed 0)) : Lifecycle Unit Unit)
      [.start clock, .turn 0, .take, .signal 0, .turn 0, .stopReturns 0, .start clock]).map
        serials = some [1] := by decide
  obtain ⟨s, hs, hserials⟩ := Option.map_eq_some_iff.1 hseen
  exact ⟨s, hs, hserials, (live_loops_bounded (.new (.fixed 0)) rfl _).2 s hs⟩

/-- A start in the middle of a stop: the stop has taken the timer and not sent the signal yet, and
the loop that it will end ticks at the same boundary as the new one. -/
theorem two_loops_tick_one_boundary :
    let clock := Tick.Clock.ofScript [0, 0, 60000]
    ∃ s : Lifecycle Unit Unit,
      runSteps step (.ofScheduler (.new (.fixed 0)))
        [.start clock, .take, .start clock, .turn 0, .turn 1] = some s ∧
      s.serials = [0, 1] ∧ s.stops = [⟨0, false⟩] ∧
      s.ticks.map (fun t => (t.serial, t.time)) = [(0, 60000), (1, 60000)] := by
  intro clock
  have hseen : (runSteps step (.ofScheduler (.new (.fixed 0)) : Lifecycle Unit Unit)
      [.start clock, .take, .start clock, .turn 0, .turn 1]).map (fun s =>
        (s.serials, s.stops, s.ticks.map fun t => (t.serial, t.time))) =
      some ([0, 1], [⟨0, false⟩], [(0, 60000), (1, 60000)]) := by decide
  obtain ⟨s, hs, hview⟩ := Option.map_eq_some_iff.1 hseen
  obtain ⟨hserials, hview⟩ := Prod.mk.inj hview
  obtain ⟨hstops, hticks⟩ := Prod.mk.inj hview
  exact ⟨s, hs, hserials, hstops, hticks⟩

end Lifecycle

end Crontab
