import Crontab.Proofs.Tick.Run
import Crontab.Tick.Word
import Crontab.Zone

/-!
# The loop stays near its clock

The next boundary is reckoned from the previous tick, and the tick from that boundary.  However the
clock jumps, and also if it stands still, the guard on sleeps keeps each tick within two units of
what the clock has shown.  So the loop's arithmetic does not overflow.

* `time_of_turn` — a tick is the last reading, or the boundary that was slept for, which is near.
* `LoopState.Near`, `near_of_turn` — the tick that a turn reckons from lies near the dates, and so
  does the tick of the turn.
* `Word.turn?_eq_some`, `Word.run?_eq_some` — turns and runs from such a tick do not overflow.
* `ticks_stay_near_clock` — both for whole runs.
-/

set_option autoImplicit false

namespace Crontab.Tick

variable {unit : Int} {clock : Clock} {e : Shutdown}

/-! ## Ticks and the clock -/

/-- A tick is the last reading taken, or the boundary that the turn slept for.  This boundary is not
earlier than the last reading, and less than two units after the one before the sleep. -/
theorem time_of_turn {s next : LoopState} {t : Firing} {jump : Option Int}
    (h : turn unit clock s = .tick t jump next) :
    t.time = clock (s.reads + 1) ∨
      t.time = nextBoundary s.previous unit ∧ t.slept = t.time - clock s.reads ∧ 0 < t.slept ∧
        clock (s.reads + 1) ≤ t.time ∧ t.time < clock s.reads + 2 * unit := by
  rcases turn_cases h with ⟨hv, -, rfl, -⟩ | ⟨-, -, rfl, -⟩
  · rw [validSleep_iff, LoopState.sleep] at hv
    rcases Int.le_total (nextBoundary s.previous unit) (clock (s.reads + 1)) with hle | hle
    · exact .inl (Int.max_eq_left hle)
    · have hmax : max (clock (s.reads + 1)) (nextBoundary s.previous unit) =
          nextBoundary s.previous unit := Int.max_eq_right hle
      refine .inr ?_
      simp only [hmax, LoopState.sleep, true_and]
      omega
  · exact .inl rfl

/-- Whether the tick that a turn reckons from is not before the first date kept, and less than two
units after the last one. -/
def LoopState.Near (unit : Int) (s : LoopState) : Prop :=
  Zone.firstInstant ≤ s.previous ∧ s.previous < Zone.lastInstant + 2 * unit

/-- What a clock shows that only shows times for which dates are kept. -/
theorem clock_bounds (hclock : ∀ i, Zone.representable (clock i) = true) (i : Nat) :
    Zone.firstInstant ≤ clock i ∧ clock i ≤ Zone.lastInstant := of_decide_eq_true (hclock i)

theorem near_start (hu : 0 < unit) (hclock : ∀ i, Zone.representable (clock i) = true)
    (e : Shutdown) : (start clock e).Near unit := by
  have hfirst := clock_bounds hclock 0
  simp only [start, LoopState.Near]
  omega

/-- A turn leaves a tick near the dates behind, wherever the one before was. -/
theorem near_of_turn (hu : 0 < unit) (hclock : ∀ i, Zone.representable (clock i) = true)
    {s next : LoopState} {t : Firing} {jump : Option Int}
    (h : turn unit clock s = .tick t jump next) : next.Near unit := by
  have hbefore := clock_bounds hclock s.reads
  have hlast := clock_bounds hclock (s.reads + 1)
  rw [LoopState.Near, (turn_next h).1]
  rcases time_of_turn h with htime | ⟨-, -, -, hlo, hhi⟩
  · omega
  · omega

/-! ## Words -/

namespace Word

variable {s : LoopState}

theorem hold?_eq_some {x : Int} (hlo : least ≤ x) (hhi : x ≤ greatest) : hold? x = some x :=
  if_pos ⟨hlo, hhi⟩

theorem boundary?_eq_some (hu : 0 < unit) (hmax : unit ≤ minuteUnit) {reference : Int}
    (hlo : Zone.firstInstant ≤ reference) (hhi : reference < Zone.lastInstant + 2 * unit) :
    boundary? reference unit = some (nextBoundary reference unit) := by
  have hperiod : -0x4000000000000000 ≤ period reference unit ∧
      period reference unit < 0x4000000000000000 := by
    rw [← Int.not_le, le_period_iff hu, le_period_iff hu]
    simp only [Zone.firstInstant, Zone.lastInstant] at hlo hhi
    omega
  have hafter := lt_nextBoundary hu reference
  have hbefore := nextBoundary_le hu reference
  unfold nextBoundary minuteUnit at *
  simp only [Zone.firstInstant, Zone.lastInstant] at hlo hhi
  simp only [boundary?, Option.bind_eq_bind]
  rw [hold?_eq_some (by unfold least; omega) (by unfold greatest; omega), Option.bind_some,
    hold?_eq_some (by unfold least; omega) (by unfold greatest; omega), Option.bind_some,
    hold?_eq_some (by unfold least; omega) (by unfold greatest; omega)]

theorem valid?_eq_some (hu : 0 < unit) (hmax : unit ≤ minuteUnit) (sleep : Int) :
    valid? sleep unit = some (validSleep sleep unit) := by
  have hlongest : hold? (2 * unit) = some (2 * unit) := by
    unfold minuteUnit at hmax
    exact hold?_eq_some (by unfold least; omega) (by unfold greatest; omega)
  unfold valid? validSleep
  rw [hlongest]
  split
  · rename_i hpos
    simp [hpos]
  · rename_i hpos
    simp [hpos]

/-- A valid sleep is waited for as long as it is. -/
theorem duration?_of_validSleep {sleep : Int} (h : validSleep sleep unit = true) :
    ∃ slept : Nat, duration? sleep = some slept ∧ (slept : Int) = sleep := by
  have hpos := (validSleep_iff.1 h).1
  exact ⟨sleep.toNat, if_pos hpos, Int.toNat_of_nonneg (Int.le_of_lt hpos)⟩

/-- A turn that reckons from a tick near the dates does not overflow. -/
theorem turn?_eq_some (hu : 0 < unit) (hmax : unit ≤ minuteUnit)
    (hclock : ∀ i, Zone.representable (clock i) = true) (hs : s.Near unit) :
    turn? unit clock s = some (turn unit clock s) := by
  have hnow := clock_bounds hclock s.reads
  have hafter := lt_nextBoundary hu s.previous
  have hbefore := nextBoundary_le hu s.previous
  have hsleep : hold? (nextBoundary s.previous unit - clock s.reads) =
      some (nextBoundary s.previous unit - clock s.reads) := by
    simp only [LoopState.Near, Zone.firstInstant, Zone.lastInstant, minuteUnit] at *
    exact hold?_eq_some (by unfold least; omega) (by unfold greatest; omega)
  simp only [turn?, turn, boundary?_eq_some hu hmax hs.1 hs.2, hsleep, valid?_eq_some hu hmax,
    Option.bind_eq_bind, Option.bind_some]
  cases hv : validSleep (nextBoundary s.previous unit - clock s.reads) unit with
  | true =>
    obtain ⟨slept, hslept, heq⟩ := duration?_of_validSleep hv
    simp only [if_true, hslept, Option.bind_some, heq]
    cases s.receiver <;> rfl
  | false =>
    simp only [Bool.false_eq_true, if_false]
    cases s.receiver <;> rfl

/-- Neither does any turn of a run from there. -/
theorem run?_eq_some (hu : 0 < unit) (hmax : unit ≤ minuteUnit)
    (hclock : ∀ i, Zone.representable (clock i) = true) {turns n : Nat} (hs : s.Near unit) :
    run? unit clock e turns n s = some (run unit clock e turns n s) := by
  induction turns generalizing n s with
  | zero => rfl
  | succ turns ih =>
    rw [run?, run, turn?_eq_some hu hmax hclock hs]
    cases hturn : turn unit clock s with
    | stop jump reads => rfl
    | fail fault reads => rfl
    | tick t jump next =>
      -- Whatever comes on the channel after the tick, the next turn reckons from it.
      obtain ⟨hlo, hhi⟩ := near_of_turn hu hclock hturn
      have hrest := ih (n := n + 1) (s := { next with receiver := e.apply (n + 1) next.receiver })
        ⟨hlo, hhi⟩
      simp only [Option.bind_eq_bind, Option.bind_some, hrest]
      rfl

end Word

/-! ## Runs -/

/-- **The loop stays near its clock and does not overflow.**  Let a clock show times for which dates
are kept, however it jumps, and let the unit be a minute at most.  Then each tick is the last
reading taken, or the boundary that was slept for; this is not earlier than the last reading, and
less than two units after the reading before the sleep.  In words of 64 bits the loop does what it
does without a bound: no operation of any turn overflows, and each sleep is waited for as a positive
number of milliseconds. -/
theorem ticks_stay_near_clock (hu : 0 < unit) (hmax : unit ≤ minuteUnit)
    (hclock : ∀ i, Zone.representable (clock i) = true) (e : Shutdown) (turns : Nat) :
    (∀ k t, (run unit clock e turns 0 (start clock e)).ticks[k]? = some t →
      t.time = clock (2 * k + 2) ∨
        t.time = nextBoundary ((run unit clock e turns 0 (start clock e)).previous (clock 0) k) unit ∧
          t.slept = t.time - clock (2 * k + 1) ∧ 0 < t.slept ∧ clock (2 * k + 2) ≤ t.time ∧
          t.time < clock (2 * k + 1) + 2 * unit) ∧
      Word.run? unit clock e turns 0 (start clock e) =
        some (run unit clock e turns 0 (start clock e)) := by
  refine ⟨fun k t ht => ?_, Word.run?_eq_some hu hmax hclock (near_start hu hclock e)⟩
  obtain ⟨receiver, jump, next, hturn⟩ := turn_of_tick ht
  have hreads : (start clock e).reads + 2 * k = 2 * k + 1 := Nat.add_comm 1 (2 * k)
  rw [hreads] at hturn
  exact time_of_turn hturn

/-- A clock that stands still at the last instant: two ticks run ahead of it, the second by more
than a unit, and the next one comes back to it. -/
theorem ticks_stay_near_clock_at_last_instant :
    let clock : Clock := fun _ => Zone.lastInstant
    let r := run minuteUnit clock ⟨9, true⟩ 3 0 (start clock ⟨9, true⟩)
    r.ticks = [⟨Zone.lastInstant + 1, 1⟩, ⟨Zone.lastInstant + 60001, 60001⟩, ⟨Zone.lastInstant, 0⟩] ∧
      Word.run? minuteUnit clock ⟨9, true⟩ 3 0 (start clock ⟨9, true⟩) = some r ∧
      ∀ t ∈ r.ticks, t.time < Zone.lastInstant + 2 * minuteUnit := by
  intro clock r
  have hclock : ∀ i, Zone.representable (clock i) = true := fun _ => by decide
  obtain ⟨hnear, hword⟩ := ticks_stay_near_clock (by decide : 0 < minuteUnit) (by decide) hclock
    ⟨9, true⟩ 3
  refine ⟨by decide, hword, fun t ht => ?_⟩
  obtain ⟨k, hk⟩ := List.getElem?_of_mem ht
  rcases hnear k t hk with htime | ⟨-, -, -, -, htime⟩
  · rw [htime]
    decide
  · exact htime

/-- A clock at the end of the words is another matter. -/
example : Word.run? minuteUnit (fun _ => Word.greatest) ⟨9, true⟩ 1 0 ⟨Word.greatest, 1, .waiting⟩ =
    none := by decide

end Crontab.Tick
