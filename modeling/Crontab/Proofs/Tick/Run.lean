import Crontab.Tick.Loop

/-!
# Turns and runs of the tick loop

What one turn can do, and what follows for each tick of a run.

* `period_eq_iff`, `le_period_iff`, `lt_period_iff` — periods by their boundaries.
* `turn_cases` — all that a turn that ticks can do, with what it read and what it checked.
* `Run.previous`, `turn_of_tick` — tick number `k` of a run comes of a turn that reckons from the
  tick before and takes two readings of its own.
* `length_ticks` — a loop that nobody ends ticks at every turn.
-/

set_option autoImplicit false

namespace Crontab.Tick

variable {unit : Int} {clock : Clock} {e : Shutdown}

/-! ## Periods -/

section Periods

variable {time q : Int}

theorem period_eq_iff (hu : 0 < unit) :
    period time unit = q ↔ q * unit ≤ time ∧ time < (q + 1) * unit := by
  rw [period, Int.ediv_eq_iff_of_pos hu, Int.add_mul, Int.one_mul]

theorem le_period_iff (hu : 0 < unit) : q ≤ period time unit ↔ q * unit ≤ time :=
  Int.le_ediv_iff_mul_le hu

theorem lt_period_iff (hu : 0 < unit) : q < period time unit ↔ (q + 1) * unit ≤ time := by
  rw [← Int.add_one_le_iff, le_period_iff hu]

theorem period_mul (hu : 0 < unit) (q : Int) : period (q * unit) unit = q :=
  Int.mul_ediv_cancel q (Int.ne_of_gt hu)

theorem nextBoundary_mul (hu : 0 < unit) (q : Int) : nextBoundary (q * unit) unit = (q + 1) * unit := by
  rw [nextBoundary, period_mul hu]

/-- The period that a boundary begins ends one unit later. -/
theorem nextBoundary_eq_add (reference unit : Int) :
    nextBoundary reference unit = period reference unit * unit + unit := by
  rw [nextBoundary, Int.add_mul, Int.one_mul]

/-- The period after that of `reference` is the unit from the next boundary on. -/
theorem period_eq_succ_iff (hu : 0 < unit) {reference : Int} :
    period time unit = period reference unit + 1 ↔
      nextBoundary reference unit ≤ time ∧ time < nextBoundary reference unit + unit := by
  have hend : (period reference unit + 1 + 1) * unit = nextBoundary reference unit + unit := by
    rw [nextBoundary, Int.add_mul _ 1 unit, Int.one_mul]
  rw [period_eq_iff hu, hend, nextBoundary]

theorem validSleep_iff {sleep : Int} : validSleep sleep unit = true ↔ 0 < sleep ∧ sleep < 2 * unit := by
  simp [validSleep]

/-- A clock that shows the previous tick asks for a sleep. -/
theorem validSleep_nextBoundary_sub (hu : 0 < unit) (reference : Int) :
    validSleep (nextBoundary reference unit - reference) unit = true := by
  have h1 := lt_nextBoundary hu reference
  have h2 := nextBoundary_le hu reference
  rw [validSleep_iff]
  omega

end Periods

/-! ## One turn -/

/-- The sleep that a turn asks for. -/
def LoopState.sleep (unit : Int) (clock : Clock) (s : LoopState) : Int :=
  nextBoundary s.previous unit - clock s.reads

/-- **What a turn that ticks did.**  Either it slept for the boundary, which the tick does not come
before, or it was told of a jump and took the second reading as it was. -/
theorem turn_cases {s next : LoopState} {t : Firing} {jump : Option Int}
    (h : turn unit clock s = .tick t jump next) :
    (validSleep (s.sleep unit clock) unit = true ∧ s.receiver = .waiting ∧
      t = ⟨max (clock (s.reads + 1)) (nextBoundary s.previous unit), s.sleep unit clock⟩ ∧
      jump = none ∧ next = ⟨t.time, s.reads + 2, .waiting⟩) ∨
    (validSleep (s.sleep unit clock) unit = false ∧ s.receiver ≠ .signalled ∧
      t = ⟨clock (s.reads + 1), 0⟩ ∧ jump = some (s.sleep unit clock) ∧
      next = ⟨t.time, s.reads + 2, s.receiver.look⟩) := by
  simp only [turn] at h
  split at h
  · rename_i hv
    split at h
    · rename_i hr
      cases h
      exact Or.inl ⟨hv, hr, rfl, rfl, rfl⟩
    · cases h
    · cases h
    · cases h
  · rename_i hv
    split at h
    · cases h
    · rename_i r hr
      cases h
      exact Or.inr ⟨Bool.eq_false_iff.2 hv, fun he => hr he, rfl, rfl, rfl⟩

theorem turn_next {s next : LoopState} {t : Firing} {jump : Option Int}
    (h : turn unit clock s = .tick t jump next) :
    next.previous = t.time ∧ next.reads = s.reads + 2 := by
  rcases turn_cases h with ⟨-, -, -, -, rfl⟩ | ⟨-, -, -, -, rfl⟩ <;> exact ⟨rfl, rfl⟩

/-- While nothing has come on the channel a turn ticks, and nothing comes by itself. -/
theorem turn_of_waiting (unit : Int) (clock : Clock) {s : LoopState} (h : s.receiver = .waiting) :
    ∃ t jump next, turn unit clock s = .tick t jump next ∧ next.receiver = .waiting := by
  simp only [turn, h]
  split <;> exact ⟨_, _, _, rfl, rfl⟩

/-! ## Runs -/

/-- The time `first` that a loop begins with, and the times of a run's ticks. -/
def Run.times (r : Run) (first : Int) : List Int := first :: r.ticks.map (·.time)

/-- The time that tick number `k` of a run reckons from: that of the tick before, and the time
`first` that the loop begins with for the first one. -/
def Run.previous (r : Run) (first : Int) (k : Nat) : Int := (r.times first).getD k 0

theorem Run.previous_zero (r : Run) (first : Int) : r.previous first 0 = first := rfl

theorem Run.previous_cons_succ (r : Run) (t : Firing) (jump : Option Int) (first : Int) (k : Nat) :
    (r.cons t jump).previous first (k + 1) = r.previous t.time k := rfl

theorem Run.previous_succ {r : Run} {k : Nat} {t : Firing} (h : r.ticks[k]? = some t) (first : Int) :
    r.previous first (k + 1) = t.time := by
  simp [previous, times, h]

theorem run_succ_of_tick {s next : LoopState} {t : Firing} {jump : Option Int}
    (h : turn unit clock s = .tick t jump next) (turns n : Nat) :
    run unit clock e (turns + 1) n s =
      (run unit clock e turns (n + 1)
        { next with receiver := e.apply (n + 1) next.receiver }).cons t jump := by
  rw [run, h]

/-- Without a tick the first turn ends the run. -/
theorem exists_tick_of_mem {s : LoopState} {turns n k : Nat} {t : Firing}
    (h : (run unit clock e (turns + 1) n s).ticks[k]? = some t) :
    ∃ t' jump next, turn unit clock s = .tick t' jump next := by
  rw [run] at h
  split at h
  · cases h
  · cases h
  · rename_i t' jump next ht
    exact ⟨t', jump, next, ht⟩

/-- **Each tick of a run is that of a turn.**  The turn of tick number `k` reckons from the tick
before and takes the readings `s.reads + 2 * k` and the one after. -/
theorem turn_of_tick {turns n : Nat} {s : LoopState} {k : Nat} {t : Firing}
    (h : (run unit clock e turns n s).ticks[k]? = some t) :
    ∃ receiver jump next,
      turn unit clock
        ⟨(run unit clock e turns n s).previous s.previous k, s.reads + 2 * k, receiver⟩ =
          .tick t jump next := by
  induction turns generalizing n s k with
  | zero => simp [run] at h
  | succ turns ih =>
    obtain ⟨t', jump, next, ht⟩ := exists_tick_of_mem h
    rw [run_succ_of_tick ht] at h ⊢
    cases k with
    | zero =>
      cases h
      exact ⟨s.receiver, jump, next, ht⟩
    | succ k =>
      obtain ⟨hp, hr⟩ := turn_next ht
      have hk := ih (n := n + 1) h
      rw [Run.previous_cons_succ, ← hp, show s.reads + 2 * (k + 1) = next.reads + 2 * k by omega]
      exact hk

theorem turn_congr {clock' : Clock} {s : LoopState} (h1 : clock s.reads = clock' s.reads)
    (h2 : clock (s.reads + 1) = clock' (s.reads + 1)) : turn unit clock s = turn unit clock' s := by
  simp only [turn, h1, h2]

/-- A run depends on the readings only that it has not taken yet. -/
theorem run_congr {clock' : Clock} {turns n : Nat} {s : LoopState}
    (h : ∀ i, s.reads ≤ i → clock i = clock' i) :
    run unit clock e turns n s = run unit clock' e turns n s := by
  induction turns generalizing n s with
  | zero => rfl
  | succ turns ih =>
    rw [run, run, turn_congr (h _ (Nat.le_refl _)) (h _ (Nat.le_succ _))]
    split
    · rfl
    · rfl
    · rename_i t jump next ht
      obtain ⟨-, hr⟩ := turn_next ht
      rw [ih fun i hi => h i (by simp only [hr] at hi; omega)]

/-- A loop that nobody ends within some turns ticks at each of them. -/
theorem length_ticks {turns n : Nat} {s : LoopState} (hr : s.receiver = .waiting)
    (he : n + turns ≤ e.after) : (run unit clock e turns n s).ticks.length = turns := by
  induction turns generalizing n s with
  | zero => rfl
  | succ turns ih =>
    obtain ⟨t, jump, next, ht, hn⟩ := turn_of_waiting unit clock hr
    rw [run_succ_of_tick ht]
    cases turns with
    | zero => rfl
    | succ turns =>
      -- The end of the run is still ahead, so the channel is not touched after this tick.
      have hwait : e.apply (n + 1) next.receiver = .waiting := by
        rw [Shutdown.apply, if_neg (by omega), hn]
      show _ + 1 = _ + 1
      rw [ih (n := n + 1) hwait (by omega)]

/-- The same from the start of the loop. -/
theorem length_ticks_start {turns : Nat} (he : turns ≤ e.after) :
    (run unit clock e turns 0 (start clock e)).ticks.length = turns := by
  cases turns with
  | zero => rfl
  | succ turns =>
    refine length_ticks ?_ (by omega)
    rw [start, Shutdown.apply, if_neg (by omega)]

end Crontab.Tick
