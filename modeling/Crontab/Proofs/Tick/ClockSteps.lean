import Crontab.Proofs.Tick.Run
import Mathlib.Data.List.Chain

/-!
# The tick loop when the clock is set

A clock may be set forward or back while the loop runs, which it notices by a sleep that a steady
clock would not ask for.

* `lt_period_of_turn`, `periods_increase` — a clock that is set back by less than a unit ticks no
  period twice.
* `Run.StandsStill`, `FollowsBoundaries` — a clock that only moves while the loop sleeps, and ticks
  at consecutive boundaries of such a clock.
* `run_realigns` — on such a clock the loop ticks at once at most one time, and follows the
  boundaries from then on.
-/

set_option autoImplicit false

namespace Crontab.Tick

variable {unit : Int} {clock : Clock} {e : Shutdown}

/-! ## Small corrections -/

/-- A turn whose first reading lies less than a unit before the period of the previous tick, and
that does not see the clock go back when it ticks at once, ticks in a later period. -/
theorem lt_period_of_turn (hu : 0 < unit) {s next : LoopState} {t : Firing} {jump : Option Int}
    (h : turn unit clock s = .tick t jump next)
    (hfirst : period s.previous unit * unit - unit < clock s.reads)
    (hsecond : t.slept = 0 → clock s.reads ≤ clock (s.reads + 1)) :
    period s.previous unit < period t.time unit := by
  rw [lt_period_iff hu, ← nextBoundary]
  rcases turn_cases h with ⟨-, -, rfl, -⟩ | ⟨hv, -, rfl, -⟩
  · exact Int.le_max_right _ _
  · -- The sleep is shorter than two units, so it was refused for not being positive.
    have hle := hsecond rfl
    rw [Bool.eq_false_iff, ne_eq, validSleep_iff] at hv
    simp only [LoopState.sleep, nextBoundary_eq_add] at hv ⊢
    omega

/-- No turn of a run that begins in state `s` reads the clock a unit or more before the period of
the tick before, and none that ticks at once sees it go back. -/
def Run.SmallCorrections (unit : Int) (clock : Clock) (s : LoopState) (r : Run) : Prop :=
  ∀ k t, r.ticks[k]? = some t →
    period (r.previous s.previous k) unit * unit - unit < clock (s.reads + 2 * k) ∧
      (t.slept = 0 → clock (s.reads + 2 * k) ≤ clock (s.reads + 2 * k + 1))

/-- The periods of a run's ticks, after that of the time `first` the loop begins with. -/
def Run.periods (unit : Int) (r : Run) (first : Int) : List Int :=
  (r.times first).map fun time => period time unit

/-- **No period is ticked twice under small corrections.**  A turn that reads the clock less than a
unit before the period of the previous tick, and then not backwards, ticks in a later period; so the
ticks of a whole run of such turns lie in ever later periods. -/
theorem periods_increase (unit : Int) (hu : 0 < unit) (clock : Clock) :
    (∀ (s next : LoopState) (t : Firing) (jump : Option Int),
      turn unit clock s = .tick t jump next →
      period s.previous unit * unit - unit < clock s.reads →
      (t.slept = 0 → clock s.reads ≤ clock (s.reads + 1)) →
      period s.previous unit < period t.time unit) ∧
    ∀ (e : Shutdown) (turns n : Nat) (s : LoopState),
      (run unit clock e turns n s).SmallCorrections unit clock s →
      ((run unit clock e turns n s).periods unit s.previous).Pairwise (· < ·) ∧
        ((run unit clock e turns n s).periods unit s.previous).Nodup := by
  refine ⟨fun s next t jump h => lt_period_of_turn hu h, fun e turns n s hr => ?_⟩
  have hincr : ((run unit clock e turns n s).periods unit s.previous).Pairwise (· < ·) := by
    rw [Run.periods, ← List.isChain_iff_pairwise, List.isChain_map, List.isChain_iff_getElem]
    intro k hk
    -- Neighbours in the list of times are what a turn reckons from and what it ticked.
    obtain ⟨t, ht⟩ : ∃ t, (run unit clock e turns n s).ticks[k]? = some t := by
      refine ⟨_, List.getElem?_eq_getElem ?_⟩
      simpa [Run.times] using hk
    obtain ⟨receiver, jump, next, hturn⟩ := turn_of_tick ht
    have hlt := lt_period_of_turn hu hturn (hr k t ht).1 (hr k t ht).2
    rw [← Run.previous_succ ht s.previous] at hlt
    simpa [Run.previous, List.getD_eq_getElem?_getD, Nat.lt_of_succ_lt hk, hk] using hlt
  exact ⟨hincr, hincr.imp fun hlt => Int.ne_of_lt hlt⟩

/-- A clock that is set back twice, by more than a second in all: at a unit of one second the loop
sleeps, then ticks late at once, then sleeps again. -/
theorem periods_increase_set_back :
    let clock := Clock.ofScript [2500, 1100, 2950, 4200, 4300, 4999, 5001]
    let r := run secondUnit clock ⟨9, true⟩ 3 0 (start clock ⟨9, true⟩)
    r.ticks = [⟨3000, 1900⟩, ⟨4300, 0⟩, ⟨5001, 1⟩] ∧ r.periods secondUnit 2500 = [2, 3, 4, 5] ∧
      (r.periods secondUnit 2500).Pairwise (· < ·) := by
  intro clock r
  refine ⟨by decide, by decide, ((periods_increase secondUnit (by decide) clock).2 ⟨9, true⟩ 3 0
    (start clock ⟨9, true⟩) fun k t ht => ?_).1⟩
  match k with
  | 0 | 1 | 2 => cases ht; decide
  | k + 3 => cases ht

/-! ## Jumps -/

/-- The clock of a run that begins in state `s` only moves while the loop sleeps, and then by as
much as the loop asked to sleep. -/
structure Run.StandsStill (clock : Clock) (s : LoopState) (r : Run) : Prop where
  asleep : ∀ k t, r.ticks[k]? = some t →
    clock (s.reads + 2 * k + 1) = clock (s.reads + 2 * k) + t.slept
  awake : ∀ k, k + 1 < r.ticks.length →
    clock (s.reads + 2 * (k + 1)) = clock (s.reads + 2 * k + 1)

/-- What a clock that shows `now` before a turn shows after it, if it moves with the turn's sleep. -/
def LoopState.awakened (unit now : Int) (s : LoopState) : Int :=
  now + if validSleep (nextBoundary s.previous unit - now) unit then
    nextBoundary s.previous unit - now else 0

theorem add_slept_of_turn {s next : LoopState} {t : Firing} {jump : Option Int}
    (h : turn unit clock s = .tick t jump next) :
    clock s.reads + t.slept = s.awakened unit (clock s.reads) := by
  rcases turn_cases h with ⟨hv, -, rfl, -⟩ | ⟨hv, -, rfl, -⟩
  · rw [LoopState.sleep] at hv ⊢
    rw [LoopState.awakened, if_pos hv]
  · rw [LoopState.sleep] at hv
    rw [LoopState.awakened, if_neg (by simp [hv])]

/-- Ticks that were slept for, at the beginnings of consecutive periods from `q` on, at which the
clock stands when the loop wakes up.  The loop reads the clock from reading `reads` on. -/
def FollowsBoundaries (unit : Int) (clock : Clock) (reads : Nat) (q : Int) (ticks : List Firing) :
    Prop :=
  ∀ (k : Nat) (t : Firing), ticks[k]? = some t →
    validSleep t.slept unit = true ∧ t.time = (q + k) * unit ∧ t.time = clock (reads + 2 * k + 1)

namespace Run.StandsStill

variable {turns n : Nat} {s : LoopState}

/-- Every tick shows the clock as it stands. -/
theorem time_eq (hs : (run unit clock e turns n s).StandsStill clock s) {k : Nat} {t : Firing}
    (ht : (run unit clock e turns n s).ticks[k]? = some t) :
    t.time = clock (s.reads + 2 * k + 1) := by
  obtain ⟨receiver, jump, next, hturn⟩ := turn_of_tick ht
  have hmove := hs.asleep k t ht
  rcases turn_cases hturn with ⟨-, -, rfl, -⟩ | ⟨-, -, rfl, -⟩
  · simp only [LoopState.sleep] at hmove ⊢
    omega
  · rfl

theorem cons {r : Run} {s next : LoopState} {t : Firing} {jump : Option Int}
    (hr : r.StandsStill clock next) (hn : next.reads = s.reads + 2)
    (hasleep : clock (s.reads + 1) = clock s.reads + t.slept)
    (hawake : clock (s.reads + 2) = clock (s.reads + 1)) :
    (r.cons t jump).StandsStill clock s := by
  constructor
  · intro k t' ht
    cases k with
    | zero => cases ht; exact hasleep
    | succ k =>
      rw [show s.reads + 2 * (k + 1) = next.reads + 2 * k by omega]
      exact hr.asleep k t' ht
  · intro k hk
    cases k with
    | zero => exact hawake
    | succ k =>
      rw [show s.reads + 2 * (k + 1 + 1) = next.reads + 2 * (k + 1) by omega,
        show s.reads + 2 * (k + 1) = next.reads + 2 * k by omega]
      exact hr.awake k (Nat.lt_of_succ_lt_succ hk)

theorem congr {r : Run} {clock' : Clock} (hr : r.StandsStill clock s)
    (h : ∀ i, s.reads ≤ i → clock i = clock' i) : r.StandsStill clock' s := by
  constructor
  · intro k t ht
    rw [← h _ (by omega), ← h _ (by omega)]
    exact hr.asleep k t ht
  · intro k hk
    rw [← h _ (by omega), ← h _ (by omega)]
    exact hr.awake k hk

theorem of_no_ticks {r : Run} (h : r.ticks = []) : r.StandsStill clock s :=
  ⟨fun k t ht => by simp [h] at ht, fun k hk => by simp [h] at hk⟩

/-- There is such a clock for every start, whatever it shows then. -/
theorem exists_clock (unit : Int) (e : Shutdown) (turns n : Nat) (s : LoopState) (now : Int) :
    ∃ clock : Clock, clock s.reads = now ∧ (run unit clock e turns n s).StandsStill clock s := by
  induction turns generalizing n s now with
  | zero => exact ⟨fun _ => now, rfl, of_no_ticks rfl⟩
  | succ turns ih =>
    -- This turn reads `now` and then what the clock shows after its sleep.
    let begun : Clock := fun i => if i = s.reads then now else s.awakened unit now
    cases hturn : turn unit begun s with
    | stop jump reads => exact ⟨begun, if_pos rfl, of_no_ticks (by rw [run, hturn])⟩
    | fail fault reads => exact ⟨begun, if_pos rfl, of_no_ticks (by rw [run, hturn])⟩
    | tick t jump next =>
      obtain ⟨-, hreads⟩ := turn_next hturn
      obtain ⟨s', hs'⟩ : ∃ s' : LoopState, s' = { next with receiver := e.apply (n + 1) next.receiver } :=
        ⟨_, rfl⟩
      have hreads' : s'.reads = s.reads + 2 := by rw [hs', ← hreads]
      -- The clock for the rest of the run begins where this turn ends.
      obtain ⟨later, hlater, hstill⟩ := ih (n + 1) s' (s.awakened unit now)
      let clock : Clock := fun i => if i < s'.reads then begun i else later i
      have hagree : ∀ i, s'.reads ≤ i → later i = clock i := fun i hi =>
        (if_neg (Nat.not_lt.2 hi)).symm
      have hfirst : clock s.reads = now := by simp [clock, begun, hreads']
      have hsecond : clock (s.reads + 1) = s.awakened unit now := by simp [clock, begun, hreads']
      have hturn' : turn unit clock s = .tick t jump next := by
        rw [← hturn]
        exact turn_congr (by simp [hfirst, begun]) (by simp [hsecond, begun])
      refine ⟨clock, hfirst, ?_⟩
      rw [run_succ_of_tick hturn', ← hs', ← run_congr hagree]
      refine (hstill.congr hagree).cons hreads' ?_ ?_
      · rw [hsecond, add_slept_of_turn hturn', hfirst]
      · rw [hsecond, ← hlater, ← hreads', hagree _ (Nat.le_refl _)]

theorem previous_eq (hs : (run unit clock e turns n s).StandsStill clock s) {k : Nat} {t : Firing}
    (ht : (run unit clock e turns n s).ticks[k + 1]? = some t) :
    (run unit clock e turns n s).previous s.previous (k + 1) = clock (s.reads + 2 * (k + 1)) := by
  obtain ⟨hk, -⟩ := List.getElem?_eq_some_iff.1 ht
  have ht' := List.getElem?_eq_getElem (Nat.lt_of_succ_lt hk)
  rw [Run.previous_succ ht', hs.time_eq ht', hs.awake k hk]

/-- A turn whose sleep is not refused ticks at the boundary. -/
theorem time_eq_nextBoundary (hs : (run unit clock e turns n s).StandsStill clock s) {k : Nat}
    {t : Firing} (ht : (run unit clock e turns n s).ticks[k]? = some t)
    (hv : validSleep (nextBoundary ((run unit clock e turns n s).previous s.previous k) unit -
      clock (s.reads + 2 * k)) unit = true) :
    validSleep t.slept unit = true ∧
      t.time = nextBoundary ((run unit clock e turns n s).previous s.previous k) unit := by
  obtain ⟨receiver, jump, next, hturn⟩ := turn_of_tick ht
  have hmove := hs.asleep k t ht
  have htime := hs.time_eq ht
  rcases turn_cases hturn with ⟨-, -, rfl, -⟩ | ⟨hv', -⟩
  · refine ⟨hv, ?_⟩
    rw [htime, hmove]
    simp only [LoopState.sleep]
    omega
  · rw [LoopState.sleep, hv] at hv'
    cases hv'

/-- A refused sleep makes the first turn tick at what the clock shows. -/
theorem first_eq (hs : (run unit clock e turns n s).StandsStill clock s) {t : Firing}
    (ht : (run unit clock e turns n s).ticks[0]? = some t)
    (hv : validSleep (s.sleep unit clock) unit = false) : t = ⟨clock s.reads, 0⟩ := by
  obtain ⟨receiver, jump, next, hturn⟩ := turn_of_tick ht
  have hmove := hs.asleep 0 t ht
  rcases turn_cases hturn with ⟨hv', -⟩ | ⟨-, -, rfl, -⟩
  · have : validSleep (s.sleep unit clock) unit = true := hv'
    rw [hv] at this
    cases this
  · simpa using hmove

/-- From a turn on whose sleep is not refused, all ticks follow the boundaries. -/
theorem follows_from (hu : 0 < unit) (hs : (run unit clock e turns n s).StandsStill clock s) (j : Nat)
    (hj : j = 0 → validSleep (s.sleep unit clock) unit = true) :
    FollowsBoundaries unit clock (s.reads + 2 * j)
      (period ((run unit clock e turns n s).previous s.previous j) unit + 1)
      ((run unit clock e turns n s).ticks.drop j) := by
  have hvalid : ∀ k t, (run unit clock e turns n s).ticks[j + k]? = some t →
      validSleep (nextBoundary ((run unit clock e turns n s).previous s.previous (j + k)) unit -
        clock (s.reads + 2 * (j + k))) unit = true := by
    intro k t ht
    cases hjk : j + k with
    | zero => exact hj (by omega)
    | succ i =>
      rw [hjk] at ht
      rw [← hs.previous_eq ht]
      exact validSleep_nextBoundary_sub hu _
  intro k
  -- The tick before stood at a boundary, so the next one does.
  induction k with
  | zero =>
    intro t ht
    rw [List.getElem?_drop] at ht
    obtain ⟨hslept, htime⟩ := hs.time_eq_nextBoundary ht (hvalid 0 t ht)
    refine ⟨hslept, ?_, hs.time_eq ht⟩
    rw [htime, nextBoundary]
    simp
  | succ k ih =>
    intro t ht
    rw [List.getElem?_drop] at ht
    obtain ⟨hk, -⟩ := List.getElem?_eq_some_iff.1 ht
    have ht' : (run unit clock e turns n s).ticks[j + k]? = some _ :=
      List.getElem?_eq_getElem (by omega)
    obtain ⟨-, hprev, -⟩ := ih _ (by rw [List.getElem?_drop]; exact ht')
    obtain ⟨hslept, htime⟩ := hs.time_eq_nextBoundary ht (hvalid (k + 1) t ht)
    refine ⟨hslept, ?_, ?_⟩
    · rw [htime, ← Nat.add_assoc, Run.previous_succ ht', hprev, nextBoundary_mul hu]
      push_cast
      rw [Int.add_assoc]
    · rw [hs.time_eq ht]
      congr 1
      omega

end Run.StandsStill

/-- **The loop recovers from a jump of the clock within one tick.**  Wherever the previous tick lies
and whatever the clock shows, there is a clock that stands still but for the sleeps of the loop.  On
each such clock only the first tick can come at once; it shows the clock, and from then on the ticks
follow the boundaries.  A loop that nobody ends ticks at every turn. -/
theorem run_realigns (unit : Int) (hu : 0 < unit) (e : Shutdown) (turns n : Nat) (s : LoopState) :
    (∀ now, ∃ clock : Clock,
      clock s.reads = now ∧ (run unit clock e turns n s).StandsStill clock s) ∧
    ∀ clock : Clock, (run unit clock e turns n s).StandsStill clock s →
      (validSleep (s.sleep unit clock) unit = true →
        FollowsBoundaries unit clock s.reads (period s.previous unit + 1)
          (run unit clock e turns n s).ticks) ∧
      (validSleep (s.sleep unit clock) unit = false →
        ∀ t rest, (run unit clock e turns n s).ticks = t :: rest →
          t = ⟨clock s.reads, 0⟩ ∧
            FollowsBoundaries unit clock (s.reads + 2) (period (clock s.reads) unit + 1) rest) ∧
      (s.receiver = .waiting → n + turns ≤ e.after →
        (run unit clock e turns n s).ticks.length = turns) := by
  refine ⟨Run.StandsStill.exists_clock unit e turns n s, fun clock hs => ⟨fun hv => ?_, ?_, length_ticks⟩⟩
  · exact hs.follows_from hu 0 fun _ => hv
  · intro hv t rest hticks
    have ht : (run unit clock e turns n s).ticks[0]? = some t := by rw [hticks]; rfl
    have hfirst := hs.first_eq ht hv
    have hrest := hs.follows_from hu 1 (by omega)
    rw [Run.previous_succ ht, hfirst, hticks] at hrest
    exact ⟨hfirst, hrest⟩

/-- The previous tick lies two hours ahead of the clock: the loop ticks at once, and then at the second
and third minute. -/
theorem run_realigns_set_back :
    let clock := Clock.ofScript [90500, 90500, 90500, 120000, 120000, 180000]
    let s : LoopState := ⟨7200000, 0, .waiting⟩
    (run minuteUnit clock ⟨9, true⟩ 3 0 s).ticks =
        [⟨90500, 0⟩, ⟨120000, 29500⟩, ⟨180000, 60000⟩] ∧
      FollowsBoundaries minuteUnit clock 2 2 [⟨120000, 29500⟩, ⟨180000, 60000⟩] := by
  intro clock s
  have hticks : (run minuteUnit clock ⟨9, true⟩ 3 0 s).ticks =
      [⟨90500, 0⟩, ⟨120000, 29500⟩, ⟨180000, 60000⟩] := by decide
  have hstill : (run minuteUnit clock ⟨9, true⟩ 3 0 s).StandsStill clock s := by
    constructor
    · intro k t ht
      rw [hticks] at ht
      match k with
      | 0 | 1 | 2 => cases ht; decide
      | k + 3 => cases ht
    · intro k hk
      rw [hticks] at hk
      match k with
      | 0 | 1 => decide
      | k + 2 => simp at hk; omega
  obtain ⟨-, hjump, -⟩ := (run_realigns minuteUnit (by decide) ⟨9, true⟩ 3 0 s).2 clock hstill
  exact ⟨hticks, (hjump (by decide) _ _ hticks).2⟩

end Crontab.Tick
