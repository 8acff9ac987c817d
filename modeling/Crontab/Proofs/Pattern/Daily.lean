import Crontab.Proofs.Calendar.Decomposition
import Crontab.Proofs.Pattern.Wildcards
import Crontab.Tick.Boundary
import Mathlib.Data.Nat.Count

/-!
# Daily patterns

A pattern that asks nothing of the day is due at the same times of each day.  A whole day of
minutes, wherever it begins, shows each time of the day once on the clocks of a zone that keeps its
offset; so the pattern is due as often as its hours and minutes can be combined, and for a whole day
of seconds as its hours, minutes and seconds can.

* `count_congr`, `count_add_mod`, `count_div_mod` — counting numbers that are moved around in a
  circle, and numbers by quotient and remainder.
* `Field.Takes`, `PieceTakes`, `PieceDaily` — the numbers that a piece accepts in a field, and
  pieces that ask nothing of the day.
* `pieceAllows_iff_of_daily` — such a piece allows a moment by its time of the day.
* `Zone.KeepsOffset`, `count_minutes`, `count_seconds` — what clocks show in the course of a day.
* `Pattern.daily_pattern_due` — how often a daily pattern is due.
-/

set_option autoImplicit false

namespace Crontab

open Text Tick

/-! ## Counting -/

section Counting

variable {P Q : Nat → Prop} [DecidablePred P] [DecidablePred Q] {m n : Nat}

/-- Only the numbers that are looked at count. -/
theorem count_congr (h : ∀ k < n, P k ↔ Q k) : Nat.count P n = Nat.count Q n :=
  Nat.le_antisymm (Nat.count_mono_left fun k hk => (h k hk).1)
    (Nat.count_mono_left fun k hk => (h k hk).2)

/-- Going round in a circle of `n` numbers one meets each of them, wherever one begins. -/
theorem count_add_mod (P : Nat → Prop) [DecidablePred P] (b n : Nat) :
    Nat.count (fun k => P ((b + k) % n)) n = Nat.count P n := by
  have hfirst := Nat.count_add (fun k => P (k % n)) b n
  have hlast := Nat.count_add (fun k => P (k % n)) n b
  simp only [Nat.add_mod_left] at hlast
  rw [Nat.add_comm n b] at hlast
  have hround : Nat.count (fun k => P ((b + k) % n)) n = Nat.count (fun k => P (k % n)) n := by
    omega
  rw [hround]
  exact count_congr fun k hk => by rw [Nat.mod_eq_of_lt hk]

/-- The same on whole numbers. -/
theorem count_emod (P : Nat → Prop) [DecidablePred P] (b : Int) (hn : 0 < n) :
    Nat.count (fun k : Nat => P ((b + k) % n).toNat) n = Nat.count P n := by
  rw [← count_add_mod P (b % n).toNat n]
  refine count_congr fun k _ => ?_
  have hb : ((b % n).toNat : Int) = b % n := Int.toNat_of_nonneg (Int.emod_nonneg b (by omega))
  have hround : (b + k) % n = (((b % n).toNat + k) % n : Nat) := by
    rw [Int.natCast_mod, Int.natCast_add, hb, Int.emod_add_emod]
  rw [hround, Int.toNat_natCast]

/-- Quotients and remainders are chosen one by one. -/
theorem count_div_mod (P Q : Nat → Prop) [DecidablePred P] [DecidablePred Q] (n : Nat)
    (hm : 0 < m) :
    Nat.count (fun k => P (k / m) ∧ Q (k % m)) (n * m) = Nat.count P n * Nat.count Q m := by
  induction n with
  | zero => simp
  | succ n ih =>
    have hlast : Nat.count (fun k => P ((n * m + k) / m) ∧ Q ((n * m + k) % m)) m =
        Nat.count (fun k => P n ∧ Q k) m := count_congr fun k hk => by
      rw [Nat.mul_comm, Nat.mul_add_div hm, Nat.div_eq_of_lt hk, Nat.mul_add_mod,
        Nat.mod_eq_of_lt hk, Nat.add_zero]
    rw [Nat.succ_mul, Nat.count_add, ih, hlast, Nat.count_succ]
    by_cases hP : P n
    · simp [hP, Nat.add_mul]
    · simp [hP]

end Counting

/-! ## What a piece asks of the time -/

instance decidableExistsOk {ε α : Type} (x : Except ε α) (P : α → Prop) [DecidablePred P] :
    Decidable (∃ a, x = .ok a ∧ P a) :=
  match x with
  | .ok a => decidable_of_iff (P a) ⟨fun h => ⟨a, rfl, h⟩, fun ⟨_, h, ha⟩ => Except.ok.inj h ▸ ha⟩
  | .error _ => isFalse fun ⟨_, h, _⟩ => nomatch h

/-- Whether a token accepts a number in a field. -/
def Field.Takes (f : Field) (token : List Char) (v : Nat) : Prop :=
  token = ['*'] ∨ token = ['?'] ∨ ∃ set, f.parse (String.ofList token) = .ok set ∧ v ∈ set

instance (f : Field) (token : List Char) : DecidablePred (f.Takes token) := fun v =>
  inferInstanceAs (Decidable (token = ['*'] ∨ token = ['?'] ∨
    ∃ set, f.parse (String.ofList token) = .ok set ∧ v ∈ set))

/-- Whether a piece accepts a number in a field.  Without a token for the second it accepts every
second. -/
def PieceTakes (piece : List Char) (f : Field) (v : Nat) : Prop :=
  ∀ c ∈ fieldTokens (words piece), c.1 = f → f.Takes c.2 v

instance (piece : List Char) (f : Field) : DecidablePred (PieceTakes piece f) := fun v =>
  inferInstanceAs (Decidable (∀ c ∈ fieldTokens (words piece), c.1 = f → f.Takes c.2 v))

/-- Whether a piece leaves the day open: the tokens for the day of the month, the month and the day
of the week are wildcards. -/
def PieceDaily (piece : List Char) : Prop :=
  ∀ c ∈ fieldTokens (words piece), c.1 ∈ [Field.dayOfMonth, Field.month, Field.dayOfWeek] →
    c.2 = ['*'] ∨ c.2 = ['?']

instance (piece : List Char) : Decidable (PieceDaily piece) :=
  inferInstanceAs (Decidable (∀ c ∈ fieldTokens (words piece),
    c.1 ∈ [Field.dayOfMonth, Field.month, Field.dayOfWeek] → c.2 = ['*'] ∨ c.2 = ['?']))

/-- Save for the day of the month, tokens look at the number of their field only. -/
theorem Field.allows_iff_takes {f : Field} (hf : f ≠ .dayOfMonth) (token : List Char) (m : Moment) :
    f.Allows token m ↔ f.Takes token (m.value f) := by
  unfold Allows Takes Denotes
  simp only [if_neg hf]

section

variable {piece : List Char} {m : Moment} {matchSecond : Bool}

theorem pieceTakes_of_pieceAllows (h : PieceAllows piece m matchSecond) {f : Field}
    (hf : f ≠ .dayOfMonth) (hsecond : f = .second → matchSecond = true) :
    PieceTakes piece f (m.value f) := by
  intro c hc hcf
  subst hcf
  rcases h c hc with ⟨hs, hmode⟩ | hallows
  · rw [hsecond hs] at hmode
    cases hmode
  · exact (Field.allows_iff_takes hf c.2 m).1 hallows

/-- A piece that leaves the day open allows a moment by its time of the day. -/
theorem pieceAllows_iff_of_daily (hdaily : PieceDaily piece) :
    PieceAllows piece m matchSecond ↔
      PieceTakes piece .hour m.hour ∧ PieceTakes piece .minute m.minute ∧
        (matchSecond = true → PieceTakes piece .second m.second) := by
  constructor
  · intro h
    exact ⟨pieceTakes_of_pieceAllows h (f := .hour) nofun nofun,
      pieceTakes_of_pieceAllows h (f := .minute) nofun nofun,
      fun hmode => pieceTakes_of_pieceAllows h (f := .second) nofun fun _ => hmode⟩
  · rintro ⟨hhour, hminute, hsecond⟩ ⟨f, token⟩ hc
    have hlook : f ≠ .dayOfMonth → PieceTakes piece f (m.value f) → f.Allows token m :=
      fun hf htakes => (Field.allows_iff_takes hf token m).2 (htakes _ hc rfl)
    have hopen : f ∈ [Field.dayOfMonth, Field.month, Field.dayOfWeek] → f.Allows token m :=
      fun hf => (hdaily _ hc hf).imp id .inl
    cases f with
    | second =>
      cases matchSecond with
      | false => exact .inl ⟨rfl, rfl⟩
      | true => exact .inr (hlook nofun (hsecond rfl))
    | minute => exact .inr (hlook nofun hminute)
    | hour => exact .inr (hlook nofun hhour)
    | dayOfMonth | month | dayOfWeek => exact .inr (hopen (by decide))

end

/-! ## The course of a day -/

/-- A zone's clocks keep one offset through some instants that lie `step` apart, and there are dates
for all of these. -/
def Zone.KeepsOffset (z : Zone) (start step : Int) (count : Nat) : Prop :=
  ∃ offset, ∀ i : Nat, i < count →
    representable (start + i * step) = true ∧ z.offsetAt ((start + i * step) / 1000) = offset

section

variable {H M S : Nat → Prop} [DecidablePred H] [DecidablePred M] [DecidablePred S]

/-- In a day of minutes clocks show every hour with every minute. -/
theorem count_minutes (k offset : Int) :
    Nat.count (fun i : Nat =>
      H (Moment.ofSeconds ((k * 60000 + i * 60000) / 1000 + offset)).hour ∧
        M (Moment.ofSeconds ((k * 60000 + i * 60000) / 1000 + offset)).minute) 1440 =
      Nat.count H 24 * Nat.count M 60 := by
  rw [← count_div_mod H M 24 (m := 60) (by decide),
    ← count_emod (fun u => H (u / 60) ∧ M (u % 60)) (k + offset / 60) (by decide : 0 < 24 * 60)]
  refine count_congr fun i _ => ?_
  have hhour : (Moment.ofSeconds ((k * 60000 + i * 60000) / 1000 + offset)).hour =
      ((k + offset / 60 + i) % (24 * 60 : Nat)).toNat / 60 := by
    simp only [Moment.ofSeconds, Moment.secondsPerDay]
    omega
  have hminute : (Moment.ofSeconds ((k * 60000 + i * 60000) / 1000 + offset)).minute =
      ((k + offset / 60 + i) % (24 * 60 : Nat)).toNat % 60 := by
    simp only [Moment.ofSeconds, Moment.secondsPerDay]
    omega
  rw [hhour, hminute]

/-- In a day of seconds clocks show every hour with every minute and every second. -/
theorem count_seconds (k offset : Int) :
    Nat.count (fun i : Nat =>
      H (Moment.ofSeconds ((k * 1000 + i * 1000) / 1000 + offset)).hour ∧
        M (Moment.ofSeconds ((k * 1000 + i * 1000) / 1000 + offset)).minute ∧
        S (Moment.ofSeconds ((k * 1000 + i * 1000) / 1000 + offset)).second) 86400 =
      Nat.count H 24 * (Nat.count M 60 * Nat.count S 60) := by
  rw [← count_div_mod M S 60 (m := 60) (by decide),
    ← count_div_mod H (fun u => M (u / 60) ∧ S (u % 60)) 24 (m := 60 * 60) (by decide),
    ← count_emod (fun t => H (t / (60 * 60)) ∧ M (t % (60 * 60) / 60) ∧ S (t % (60 * 60) % 60))
      (k + offset) (by decide : 0 < 24 * (60 * 60))]
  refine count_congr fun i _ => ?_
  have hhour : (Moment.ofSeconds ((k * 1000 + i * 1000) / 1000 + offset)).hour =
      ((k + offset + i) % (24 * (60 * 60) : Nat)).toNat / (60 * 60) := by
    simp only [Moment.ofSeconds, Moment.secondsPerDay]
    omega
  have hminute : (Moment.ofSeconds ((k * 1000 + i * 1000) / 1000 + offset)).minute =
      ((k + offset + i) % (24 * (60 * 60) : Nat)).toNat % (60 * 60) / 60 := by
    simp only [Moment.ofSeconds, Moment.secondsPerDay]
    omega
  have hsecond : (Moment.ofSeconds ((k * 1000 + i * 1000) / 1000 + offset)).second =
      ((k + offset + i) % (24 * (60 * 60) : Nat)).toNat % (60 * 60) % 60 := by
    simp only [Moment.ofSeconds, Moment.secondsPerDay]
    omega
  rw [hhour, hminute, hsecond]

end

/-! ## Patterns in the course of a day -/

namespace Pattern

variable {text : String} {p : Pattern}

/-- A pattern of one piece accepts what this piece allows. -/
theorem accepts_iff_of_size_one (h : parse text = .ok p) (hsize : p.size = 1) (m : Moment)
    (matchSecond : Bool) :
    p.accepts m matchSecond = true ↔ PieceAllows text.toList m matchSecond := by
  obtain ⟨-, -, hread⟩ := parse_eq_ok_iff.1 h
  have hpieces := length_pieces (· == '|') text.toList
  have hlength : (pieces (· == '|') text.toList).length = 1 := hread.length_eq.trans hsize
  have hbar : '|' ∉ text.toList := by
    rw [hlength, eq_comm, Nat.add_eq_right, List.countP_eq_zero] at hpieces
    exact fun hmem => hpieces '|' hmem rfl
  rw [accepts_iff_exists_piece h, piecesAt_of_not_mem hbar]
  simp

/-- How many instants a pattern is due at is a count of their places. -/
theorem length_dueInstants (p : Pattern) (z : Zone) (matchSecond : Bool) (start step : Int)
    (count : Nat) :
    (p.dueInstants z matchSecond start step count).length =
      Nat.count (fun i : Nat => p.matchesAt z (start + i * step) matchSecond = true) count := by
  rw [dueInstants, ← List.countP_eq_length_filter, List.countP_map, Nat.count]
  simp [Function.comp_def]

section

variable (h : parse text = .ok p) (hsize : p.size = 1) (hdaily : PieceDaily text.toList)

include h hsize hdaily

theorem matchesAt_iff_of_daily {z : Zone} {millis : Int} (hrep : Zone.representable millis = true)
    (matchSecond : Bool) :
    p.matchesAt z millis matchSecond = true ↔
      PieceTakes text.toList .hour
          (Moment.ofSeconds (millis / 1000 + z.offsetAt (millis / 1000))).hour ∧
        PieceTakes text.toList .minute
          (Moment.ofSeconds (millis / 1000 + z.offsetAt (millis / 1000))).minute ∧
        (matchSecond = true → PieceTakes text.toList .second
          (Moment.ofSeconds (millis / 1000 + z.offsetAt (millis / 1000))).second) := by
  rw [matchesAt, Zone.moment?_eq_some_iff.2 ⟨hrep, rfl⟩]
  exact (accepts_iff_of_size_one h hsize _ matchSecond).trans (pieceAllows_iff_of_daily hdaily)

/-- **A daily pattern is due as often as its times can be combined.**  Let a pattern of one piece
leave the day open.  Through 1440 minutes at which a zone keeps one offset, whatever offset and
wherever they begin, it is due as many times as there are hours and minutes to combine that it
accepts; and through 86400 seconds, if they are looked at, as hours, minutes and seconds. -/
theorem daily_pattern_due (z : Zone) (k : Int) :
    (z.KeepsOffset (k * minuteUnit) minuteUnit 1440 →
      (p.dueInstants z false (k * minuteUnit) minuteUnit 1440).length =
        Nat.count (PieceTakes text.toList .minute) 60 *
          Nat.count (PieceTakes text.toList .hour) 24) ∧
    (z.KeepsOffset (k * secondUnit) secondUnit 86400 →
      (p.dueInstants z true (k * secondUnit) secondUnit 86400).length =
        Nat.count (PieceTakes text.toList .second) 60 *
          Nat.count (PieceTakes text.toList .minute) 60 *
          Nat.count (PieceTakes text.toList .hour) 24) := by
  unfold minuteUnit secondUnit
  constructor
  · rintro ⟨offset, hkeeps⟩
    rw [length_dueInstants, Nat.mul_comm, ← count_minutes k offset]
    refine count_congr fun i hi => ?_
    obtain ⟨hrep, hoffset⟩ := hkeeps i hi
    rw [matchesAt_iff_of_daily h hsize hdaily hrep, hoffset]
    simp
  · rintro ⟨offset, hkeeps⟩
    rw [length_dueInstants, Nat.mul_comm, Nat.mul_comm (Nat.count _ 60),
      ← count_seconds k offset]
    refine count_congr fun i hi => ?_
    obtain ⟨hrep, hoffset⟩ := hkeeps i hi
    rw [matchesAt_iff_of_daily h hsize hdaily hrep, hoffset]
    simp

end

/-- Around the beginning of 1970, and behind UTC by an odd number of seconds: three seconds, nine
minutes and nine hours. -/
theorem daily_pattern_due_in_monrovia :
    let monrovia : Offsets := .ofPairs (-2670) [(63593070, 0)]
    let zones : TimeZones := .ofList (.fixed 0) [("Africa/Monrovia", monrovia)]
    ∃ p z, parse "*/25 */7 9-17 ? * *" = .ok p ∧ Zone.parse zones "Africa/Monrovia" = .ok z ∧
      z.offsetAt 0 = -2670 ∧
      (p.dueInstants z false (-700 * minuteUnit) minuteUnit 1440).length = 9 * 9 ∧
      (p.dueInstants z true (-700 * secondUnit) secondUnit 86400).length = 3 * 9 * 9 := by
  intro monrovia zones
  have hz : Zone.parse zones "Africa/Monrovia" = .ok (.named "Africa/Monrovia" monrovia) := by
    decide
  have hoffset : ∀ seconds < 63593070,
      (Zone.named "Africa/Monrovia" monrovia).offsetAt seconds = -2670 :=
    fun seconds hs => if_neg (Int.not_le.2 hs)
  have hrep : ∀ millis, -100000000 ≤ millis → millis ≤ 100000000 →
      Zone.representable millis = true := fun millis hlo hhi => by
    rw [Zone.representable, decide_eq_true_eq]
    unfold Zone.firstInstant Zone.lastInstant
    omega
  obtain ⟨p, hp⟩ : ∃ p, parse "*/25 */7 9-17 ? * *" = .ok p := ⟨_, rfl⟩
  have hsize : p.size = 1 := by
    cases hp
    rfl
  obtain ⟨hminutes, hseconds⟩ := daily_pattern_due hp hsize (by decide)
    (.named "Africa/Monrovia" monrovia) (-700)
  have hhour : Nat.count (PieceTakes "*/25 */7 9-17 ? * *".toList .hour) 24 = 9 := by decide
  have hminute : Nat.count (PieceTakes "*/25 */7 9-17 ? * *".toList .minute) 60 = 9 := by decide
  have hsecond : Nat.count (PieceTakes "*/25 */7 9-17 ? * *".toList .second) 60 = 3 := by decide
  rw [hhour, hminute] at hminutes
  rw [hhour, hminute, hsecond] at hseconds
  unfold minuteUnit secondUnit at *
  refine ⟨p, _, hp, hz, hoffset 0 (by decide), hminutes ⟨-2670, fun i hi => ?_⟩,
    hseconds ⟨-2670, fun i hi => ?_⟩⟩
  · exact ⟨hrep _ (by omega) (by omega), hoffset _ (by omega)⟩
  · exact ⟨hrep _ (by omega) (by omega), hoffset _ (by omega)⟩

end Pattern

end Crontab
