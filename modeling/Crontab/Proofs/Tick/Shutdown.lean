import Crontab.Proofs.Tick.Run

/-!
# The end of a loop

The clock alone tells how a loop goes that is not told to end.  A signal, or the loss of its sender,
decides only how far the loop gets on this course, and how it ends there.

* `turn_eq_tick`, `turn_eq_stop`, `turn_eq_fail` — all that a turn can do, by what has come on the
  channel.
* `undisturbed`, `Run.courseTo`, `Run.endedAt` — the course, and the runs that get to a place on it.
* `Shutdown.Passes`, `run_stateAt_add` — the turns that tick whatever has come, and a run over these.
* `signal_ends_next_turn` — a signal ends the loop at the next turn.
* `abandoned_ends_asleep` — the loss of the sender does so only if that turn sleeps.
-/

set_option autoImplicit false

namespace Crontab.Tick

variable {unit : Int} {clock : Clock} {e : Shutdown}

/-! ## Turns by what has come on the channel -/

namespace LoopState

/-- Whether a turn sleeps for its tick. -/
def sleeps (unit : Int) (clock : Clock) (s : LoopState) : Bool :=
  validSleep (s.sleep unit clock) unit

/-- What a turn ticks, if it does. -/
def firing (unit : Int) (clock : Clock) (s : LoopState) : Firing :=
  if s.sleeps unit clock then
    ⟨max (clock (s.reads + 1)) (nextBoundary s.previous unit), s.sleep unit clock⟩
  else ⟨clock (s.reads + 1), 0⟩

/-- The sleep that a turn refuses. -/
def jump (unit : Int) (clock : Clock) (s : LoopState) : Option Int :=
  if s.sleeps unit clock then none else some (s.sleep unit clock)

end LoopState

section Turns

variable {s : LoopState}

/-- A turn ticks if nothing has come, and without a sleep it does so as long as no signal has. -/
theorem turn_eq_tick
    (h : s.receiver = .waiting ∨ s.receiver ≠ .signalled ∧ s.sleeps unit clock = false) :
    turn unit clock s = .tick (s.firing unit clock) (s.jump unit clock)
      ⟨(s.firing unit clock).time, s.reads + 2, s.receiver.look⟩ := by
  unfold LoopState.firing LoopState.jump
  cases hv : s.sleeps unit clock with
  | true =>
    have hr : s.receiver = .waiting := h.resolve_right (by simp [hv])
    have hsleep : validSleep (nextBoundary s.previous unit - clock s.reads) unit = true := hv
    simp only [turn, hsleep, hr, if_true]
    rfl
  | false =>
    have hr : s.receiver ≠ .signalled := h.elim (fun hw => by simp [hw]) And.left
    have hsleep : validSleep (nextBoundary s.previous unit - clock s.reads) unit = false := hv
    simp only [turn, hsleep, Bool.false_eq_true, if_false]
    rfl

/-- A turn ends the loop if a signal has come, and a sleep is ended by the loss of the sender too. -/
theorem turn_eq_stop
    (h : s.receiver = .signalled ∨ s.receiver = .abandoned ∧ s.sleeps unit clock = true) :
    turn unit clock s = .stop (s.jump unit clock) (s.reads + 1) := by
  unfold LoopState.jump
  cases hv : s.sleeps unit clock with
  | true =>
    have hsleep : validSleep (nextBoundary s.previous unit - clock s.reads) unit = true := hv
    rcases h with hr | ⟨hr, -⟩ <;> simp only [turn, hsleep, hr, if_true]
  | false =>
    have hr : s.receiver = .signalled := h.resolve_right (by simp [hv])
    have hsleep : validSleep (nextBoundary s.previous unit - clock s.reads) unit = false := hv
    simp only [turn, hsleep, hr, Bool.false_eq_true, if_false]
    rfl

/-- A sleep is a fault once the loss of the sender has been looked at. -/
theorem turn_eq_fail (hr : s.receiver = .finished) (hv : s.sleeps unit clock = true) :
    turn unit clock s = .fail .awaitedTwice (s.reads + 1) := by
  have hsleep : validSleep (nextBoundary s.previous unit - clock s.reads) unit = true := hv
  simp only [turn, hsleep, hr, if_true]

end Turns

/-! ## The course of a loop -/

/-- What a loop that is not told to end knows before turn number `k`, counted from zero. -/
def undisturbed (unit : Int) (clock : Clock) : (k : Nat) → LoopState
  | 0 => ⟨clock 0, 1, .waiting⟩
  | k + 1 =>
    let s := undisturbed unit clock k
    ⟨(s.firing unit clock).time, s.reads + 2, .waiting⟩

/-- The tick of turn number `k`. -/
def tickAt (unit : Int) (clock : Clock) (k : Nat) : Firing :=
  (undisturbed unit clock k).firing unit clock

/-- Whether turn number `k` sleeps. -/
def sleepsAt (unit : Int) (clock : Clock) (k : Nat) : Bool :=
  (undisturbed unit clock k).sleeps unit clock

/-- The jump that turn number `k` warns of. -/
def jumpAt (unit : Int) (clock : Clock) (k : Nat) : Option Int :=
  (undisturbed unit clock k).jump unit clock

theorem reads_undisturbed (unit : Int) (clock : Clock) (k : Nat) :
    (undisturbed unit clock k).reads = 2 * k + 1 := by
  induction k with
  | zero => rfl
  | succ k ih =>
    show (undisturbed unit clock k).reads + 2 = _
    omega

theorem receiver_undisturbed (unit : Int) (clock : Clock) (k : Nat) :
    (undisturbed unit clock k).receiver = .waiting := by
  cases k <;> rfl

theorem turn_undisturbed (unit : Int) (clock : Clock) (k : Nat) :
    turn unit clock (undisturbed unit clock k) =
      .tick (tickAt unit clock k) (jumpAt unit clock k) (undisturbed unit clock (k + 1)) := by
  have hwait := receiver_undisturbed unit clock k
  rw [turn_eq_tick (.inl hwait), hwait]
  rfl

namespace Run

/-- What is seen of a loop that has come to turn number `n`. -/
def courseTo (unit : Int) (clock : Clock) (n : Nat) : Run :=
  ⟨(List.range n).map (tickAt unit clock), (List.range n).filterMap (jumpAt unit clock), 2 * n + 1,
    .running⟩

/-- What is seen of a loop that ends at turn number `n`.  This turn may warn of a jump, but does not
tick. -/
def endedAt (unit : Int) (clock : Clock) (n : Nat) (ending : Ending) : Run :=
  ⟨(List.range n).map (tickAt unit clock), (List.range (n + 1)).filterMap (jumpAt unit clock),
    2 * n + 2, ending⟩

/-- A run with turns number `n` to `n + a` of the course in front of it. -/
def prepend (unit : Int) (clock : Clock) (n a : Nat) (r : Run) : Run :=
  { r with
    ticks := (List.range' n a).map (tickAt unit clock) ++ r.ticks
    jumps := (List.range' n a).filterMap (jumpAt unit clock) ++ r.jumps }

theorem prepend_courseTo (unit : Int) (clock : Clock) (n : Nat) :
    (Run.mk [] [] (2 * n + 1) .running).prepend unit clock 0 n = .courseTo unit clock n := by
  simp only [prepend, courseTo, List.append_nil, List.range_eq_range']

theorem prepend_endedAt (unit : Int) (clock : Clock) (n : Nat) (ending : Ending) :
    (Run.mk [] (jumpAt unit clock n).toList (2 * n + 2) ending).prepend unit clock 0 n =
      .endedAt unit clock n ending := by
  have hlast : [n].filterMap (jumpAt unit clock) = (jumpAt unit clock n).toList := by
    cases h : jumpAt unit clock n <;> simp [h]
  simp only [prepend, endedAt, List.append_nil, List.range_succ, List.filterMap_append, hlast,
    List.range_eq_range']

theorem prepend_succ (unit : Int) (clock : Clock) (n a : Nat) (r : Run) :
    r.prepend unit clock n (a + 1) =
      (r.prepend unit clock (n + 1) a).cons (tickAt unit clock n) (jumpAt unit clock n) := by
  simp only [prepend, cons, List.range'_succ, List.map_cons, List.cons_append, List.filterMap_cons]
  cases jumpAt unit clock n <;> rfl

end Run

/-! ## How far a loop gets -/

namespace Shutdown

/-- The receiving end before turn number `k`, if all turns before have ticked.  A look at it is taken
at every turn that does not sleep. -/
def receiverAt (e : Shutdown) (k : Nat) : Receiver :=
  if k < e.after then .waiting
  else if e.sent then .signalled
  else if k = e.after then .abandoned
  else .finished

/-- What a loop knows before turn number `k`, if all turns before have ticked. -/
def stateAt (e : Shutdown) (unit : Int) (clock : Clock) (k : Nat) : LoopState :=
  { undisturbed unit clock k with receiver := e.receiverAt k }

/-- Whether turn number `k` ticks whatever has come on the channel. -/
def Passes (e : Shutdown) (unit : Int) (clock : Clock) (k : Nat) : Prop :=
  k < e.after ∨ e.sent = false ∧ sleepsAt unit clock k = false

theorem receiverAt_of_lt {k : Nat} (h : k < e.after) : e.receiverAt k = .waiting := if_pos h

theorem receiverAt_of_sent {k : Nat} (h : e.after ≤ k) (hs : e.sent = true) :
    e.receiverAt k = .signalled := by
  rw [receiverAt, if_neg (Nat.not_lt.2 h), if_pos hs]

theorem receiverAt_after (h : e.sent = false) : e.receiverAt e.after = .abandoned := by
  simp [receiverAt, h]

theorem receiverAt_of_gt {k : Nat} (h : e.after < k) (hs : e.sent = false) :
    e.receiverAt k = .finished := by
  simp [receiverAt, hs, Nat.lt_asymm h, Nat.ne_of_gt h]

theorem receiverAt_succ (e : Shutdown) (k : Nat) :
    e.receiverAt (k + 1) = e.apply (k + 1) (e.receiverAt k).look := by
  unfold apply
  rcases Nat.lt_trichotomy (k + 1) e.after with h | h | h
  · rw [if_neg (Nat.ne_of_lt h), receiverAt_of_lt h, receiverAt_of_lt (Nat.lt_of_succ_lt h)]
    rfl
  · rw [if_pos h, receiverAt, if_neg (by omega), if_pos h]
  · rw [if_neg (Nat.ne_of_gt h)]
    cases hs : e.sent with
    | true =>
      rw [receiverAt_of_sent (by omega) hs, receiverAt_of_sent (by omega) hs]
      rfl
    | false =>
      rw [receiverAt_of_gt h hs]
      rcases Nat.eq_or_lt_of_le (Nat.le_of_lt_succ h) with rfl | hlt
      · rw [receiverAt_after hs]
        rfl
      · rw [receiverAt_of_gt hlt hs]
        rfl

theorem start_eq_stateAt (unit : Int) (clock : Clock) (e : Shutdown) :
    start clock e = e.stateAt unit clock 0 := by
  have hzero : e.apply 0 .waiting = e.receiverAt 0 := by
    unfold apply receiverAt
    rcases Nat.eq_zero_or_pos e.after with h | h
    · simp [h]
    · rw [if_neg (Nat.ne_of_lt h), if_pos h]
  rw [start, hzero]
  rfl

theorem turn_stateAt {k : Nat} (h : e.Passes unit clock k) :
    turn unit clock (e.stateAt unit clock k) = .tick (tickAt unit clock k) (jumpAt unit clock k)
      { undisturbed unit clock (k + 1) with receiver := (e.receiverAt k).look } := by
  refine turn_eq_tick (h.imp receiverAt_of_lt fun ⟨hs, hsleep⟩ => ⟨?_, hsleep⟩)
  simp only [stateAt, receiverAt, hs, Bool.false_eq_true, if_false]
  split
  · decide
  · split <;> decide

end Shutdown

open Shutdown

/-- **A run over turns that tick whatever has come.** -/
theorem run_stateAt_add {n a : Nat} (h : ∀ k, n ≤ k → k < n + a → e.Passes unit clock k)
    (turns : Nat) :
    run unit clock e (a + turns) n (e.stateAt unit clock n) =
      (run unit clock e turns (n + a) (e.stateAt unit clock (n + a))).prepend unit clock n a := by
  induction a generalizing n with
  | zero => rw [Nat.zero_add]; rfl
  | succ a ih =>
    have hnext : { undisturbed unit clock (n + 1) with
        receiver := e.apply (n + 1) (e.receiverAt n).look } = e.stateAt unit clock (n + 1) := by
      rw [← receiverAt_succ, stateAt]
    have hfirst := turn_stateAt (h n (Nat.le_refl n) (by omega))
    rw [Nat.add_right_comm, run_succ_of_tick hfirst, hnext, Run.prepend_succ,
      ih fun k hk hlt => h k (by omega) (by omega), Nat.add_right_comm n 1 a, Nat.add_assoc n a 1]

section Ends

variable {n turns : Nat}

/-- A loop that ticks at each turn follows the course. -/
theorem run_courseTo (h : ∀ k < turns, e.Passes unit clock k) :
    run unit clock e turns 0 (start clock e) = .courseTo unit clock turns := by
  have hall : ∀ k, 0 ≤ k → k < 0 + turns → e.Passes unit clock k := fun k _ hk => h k (by omega)
  have hreads : (e.stateAt unit clock turns).reads = 2 * turns + 1 :=
    reads_undisturbed unit clock turns
  have hrun := run_stateAt_add hall 0
  rw [Nat.zero_add, Nat.add_zero, run.eq_1 _ _ _ _ (e.stateAt unit clock turns), hreads,
    Run.prepend_courseTo] at hrun
  rw [start_eq_stateAt unit, hrun]

/-- The turns of a loop up to the first that does not tick, and what is left for this turn. -/
theorem run_of_lt (h : ∀ k < n, e.Passes unit clock k) (hn : n < turns) :
    ∃ rest, run unit clock e turns 0 (start clock e) =
      (run unit clock e (rest + 1) n (e.stateAt unit clock n)).prepend unit clock 0 n := by
  obtain ⟨rest, rfl⟩ : ∃ rest, turns = n + (rest + 1) := ⟨turns - n - 1, by omega⟩
  have hall : ∀ k, 0 ≤ k → k < 0 + n → e.Passes unit clock k := fun k _ hk => h k (by omega)
  refine ⟨rest, ?_⟩
  rw [start_eq_stateAt unit, run_stateAt_add hall, Nat.zero_add]

/-- A signal ends the loop, and the loss of the sender ends a sleep. -/
theorem run_stopped (h : ∀ k < n, e.Passes unit clock k) (hn : n < turns)
    (hend : e.receiverAt n = .signalled ∨
      e.receiverAt n = .abandoned ∧ sleepsAt unit clock n = true) :
    run unit clock e turns 0 (start clock e) = .endedAt unit clock n .stopped := by
  obtain ⟨rest, hrun⟩ := run_of_lt h hn
  have hturn : turn unit clock (e.stateAt unit clock n) =
      .stop (jumpAt unit clock n) ((undisturbed unit clock n).reads + 1) := turn_eq_stop hend
  rw [hrun, run, hturn, reads_undisturbed]
  exact Run.prepend_endedAt unit clock n .stopped

/-- The first sleep after the loss of the sender has been looked at is a fault. -/
theorem run_failed (h : ∀ k < n, e.Passes unit clock k) (hn : n < turns)
    (hr : e.receiverAt n = .finished) (hsleep : sleepsAt unit clock n = true) :
    run unit clock e turns 0 (start clock e) = .endedAt unit clock n (.failed .awaitedTwice) := by
  obtain ⟨rest, hrun⟩ := run_of_lt h hn
  have hturn : turn unit clock (e.stateAt unit clock n) =
      .fail .awaitedTwice ((undisturbed unit clock n).reads + 1) := turn_eq_fail hr hsleep
  have hjump : jumpAt unit clock n = none := if_pos hsleep
  have hend := Run.prepend_endedAt unit clock n (.failed .awaitedTwice)
  rw [hrun, run, hturn, reads_undisturbed]
  rwa [hjump] at hend

end Ends

theorem Run.ticks_endedAt_take {n m : Nat} (h : n ≤ m) (ending : Ending) :
    (endedAt unit clock n ending).ticks = (endedAt unit clock m ending).ticks.take n := by
  rw [endedAt, endedAt, ← List.map_take, List.take_range, Nat.min_eq_left h]

/-! ## Signals -/

/-- **A signal ends the loop at the next turn, whether that sleeps or not, and loses no tick.**  Told
to end after `n` ticks a loop ends after these; until then it ticks at every turn, so that the ticks
before an earlier end are the first of those before a later one. -/
theorem signal_ends_next_turn (unit : Int) (clock : Clock) :
    (∀ k, turn unit clock (undisturbed unit clock k) =
      .tick (tickAt unit clock k) (jumpAt unit clock k) (undisturbed unit clock (k + 1))) ∧
    (∀ (e : Shutdown) (turns : Nat), turns ≤ e.after →
      run unit clock e turns 0 (start clock e) = .courseTo unit clock turns) ∧
    (∀ n turns : Nat, n < turns →
      run unit clock ⟨n, true⟩ turns 0 (start clock ⟨n, true⟩) = .endedAt unit clock n .stopped) ∧
    ∀ n m turns turns' : Nat, n ≤ m → n < turns → m < turns' →
      (run unit clock ⟨n, true⟩ turns 0 (start clock ⟨n, true⟩)).ticks.length = n ∧
      (run unit clock ⟨n, true⟩ turns 0 (start clock ⟨n, true⟩)).ticks =
        (run unit clock ⟨m, true⟩ turns' 0 (start clock ⟨m, true⟩)).ticks.take n := by
  have hstopped : ∀ n turns : Nat, n < turns →
      run unit clock ⟨n, true⟩ turns 0 (start clock ⟨n, true⟩) = .endedAt unit clock n .stopped :=
    fun n turns hn => run_stopped (fun k hk => .inl hk) hn
      (.inl (receiverAt_of_sent (Nat.le_refl n) rfl))
  refine ⟨turn_undisturbed unit clock, fun e turns h => ?_, hstopped, ?_⟩
  · exact run_courseTo fun k hk => .inl (Nat.lt_of_lt_of_le hk h)
  · intro n m turns turns' hnm hn hm
    rw [hstopped n turns hn, hstopped m turns' hm]
    exact ⟨by simp [Run.endedAt], Run.ticks_endedAt_take hnm .stopped⟩

/-- A signal that comes before a turn that would tick at once. -/
theorem signal_before_immediate_tick :
    let clock := Clock.ofScript [500, 500, 1000, 5000]
    run secondUnit clock ⟨1, true⟩ 3 0 (start clock ⟨1, true⟩) =
        ⟨[⟨1000, 500⟩], [-3000], 4, .stopped⟩ ∧
      (run secondUnit clock ⟨2, true⟩ 9 0 (start clock ⟨2, true⟩)).ticks =
        [⟨1000, 500⟩, ⟨5000, 0⟩] ∧
      (run secondUnit clock ⟨1, true⟩ 3 0 (start clock ⟨1, true⟩)).ticks =
        (run secondUnit clock ⟨2, true⟩ 9 0 (start clock ⟨2, true⟩)).ticks.take 1 := by
  intro clock
  obtain ⟨-, -, hstopped, htake⟩ := signal_ends_next_turn secondUnit clock
  rw [hstopped 2 9 (by decide)]
  refine ⟨(hstopped 1 3 (by decide)).trans (by decide), by decide, ?_⟩
  rw [← hstopped 2 9 (by decide)]
  exact (htake 1 2 3 9 (by decide) (by decide) (by decide)).2

/-! ## The loss of the sender -/

/-- **The loss of the sender ends a sleep, and nothing else.**  If the turn after it sleeps the loop ends
there like on a signal.  Otherwise it ticks on at every turn that does not sleep, and the first that
does is a fault. -/
theorem abandoned_ends_asleep (unit : Int) (clock : Clock) (n : Nat) :
    (sleepsAt unit clock n = true → ∀ turns, n < turns →
      run unit clock ⟨n, false⟩ turns 0 (start clock ⟨n, false⟩) = .endedAt unit clock n .stopped) ∧
    ∀ m, n < m → (∀ k, n ≤ k → k < m → sleepsAt unit clock k = false) →
      (∀ turns, turns ≤ m →
        run unit clock ⟨n, false⟩ turns 0 (start clock ⟨n, false⟩) = .courseTo unit clock turns) ∧
      (sleepsAt unit clock m = true → ∀ turns, m < turns →
        run unit clock ⟨n, false⟩ turns 0 (start clock ⟨n, false⟩) =
          .endedAt unit clock m (.failed .awaitedTwice)) := by
  constructor
  · intro hsleep turns hn
    exact run_stopped (fun k hk => .inl hk) hn (.inr ⟨receiverAt_after rfl, hsleep⟩)
  · intro m hm hawake
    have hpasses : ∀ k < m, Shutdown.Passes ⟨n, false⟩ unit clock k := by
      intro k hk
      rcases Nat.lt_or_ge k n with hlt | hge
      · exact .inl hlt
      · exact .inr ⟨rfl, hawake k hge hk⟩
    refine ⟨fun turns hturns => run_courseTo fun k hk => hpasses k (by omega), ?_⟩
    intro hsleep turns hturns
    exact run_failed hpasses hturns (receiverAt_of_gt hm rfl) hsleep

/-- The sender is lost at the first tick.  The loop ends where its clock runs on, and comes to a fault
where its clock jumps ahead first. -/
theorem abandoned_ends_asleep_or_fails :
    let steady := Clock.ofScript [500, 500, 1000, 1000, 2000]
    let jumping := Clock.ofScript [500, 500, 1000, 3000, 3000, 3000]
    run secondUnit steady ⟨1, false⟩ 2 0 (start steady ⟨1, false⟩) =
        ⟨[⟨1000, 500⟩], [], 4, .stopped⟩ ∧
      run secondUnit jumping ⟨1, false⟩ 2 0 (start jumping ⟨1, false⟩) =
        ⟨[⟨1000, 500⟩, ⟨3000, 0⟩], [-1000], 5, .running⟩ ∧
      run secondUnit jumping ⟨1, false⟩ 9 0 (start jumping ⟨1, false⟩) =
        ⟨[⟨1000, 500⟩, ⟨3000, 0⟩], [-1000], 6, .failed .awaitedTwice⟩ := by
  intro steady jumping
  have hawake : ∀ k, 1 ≤ k → k < 2 → sleepsAt secondUnit jumping k = false := by
    intro k hge hlt
    obtain rfl : k = 1 := by omega
    decide
  obtain ⟨hcourse, hfault⟩ := (abandoned_ends_asleep secondUnit jumping 1).2 2 (by decide) hawake
  refine ⟨?_, (hcourse 2 (by decide)).trans (by decide),
    (hfault (by decide) 9 (by decide)).trans (by decide)⟩
  exact ((abandoned_ends_asleep secondUnit steady 1).1 (by decide) 2 (by decide)).trans (by decide)

/-- The loss of the sender at the first tick, after which the clock jumps ahead, is followed by a second
tick and a fault, and never ends the loop. -/
theorem fault_after_loss :
    let clock := Clock.ofScript [500, 500, 1000, 5000]
    let r := fun turns => run secondUnit clock ⟨1, false⟩ turns 0 (start clock ⟨1, false⟩)
    (∀ turns, 2 < turns →
      r turns = ⟨[⟨1000, 500⟩, ⟨5000, 0⟩], [-3000], 6, .failed .awaitedTwice⟩) ∧
    ∀ turns, (r turns).ending ≠ .stopped := by
  intro clock r
  have hpasses : ∀ k < 2, Shutdown.Passes ⟨1, false⟩ secondUnit clock k
    | 0, _ => .inl Nat.one_pos
    | 1, _ => .inr ⟨rfl, by decide⟩
  have hfault : ∀ turns, 2 < turns →
      r turns = ⟨[⟨1000, 500⟩, ⟨5000, 0⟩], [-3000], 6, .failed .awaitedTwice⟩ :=
    fun turns h => (run_failed hpasses h rfl (by decide)).trans (by decide)
  refine ⟨hfault, fun turns => ?_⟩
  rcases Nat.lt_or_ge 2 turns with h | h
  · rw [hfault turns h]
    decide
  · have hcourse : r turns = .courseTo secondUnit clock turns :=
      run_courseTo fun k hk => hpasses k (by omega)
    simp [hcourse, Run.courseTo]

end Crontab.Tick
