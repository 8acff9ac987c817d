import Crontab.Zone
import Crontab.Proofs.Tick.Run

/-!
# What clocks show throughout a period

Within one second every zone's clocks show the same moment; within one minute they differ in the
second only, if the zone keeps an offset of whole minutes.

* `Zone.KeepsMinutes` — a minute through which a zone keeps such an offset.
* `moment?_of_second`, `moment?_of_minute` — moments within a second, and within a minute.
* `matchesAt_of_second`, `matchesAt_of_minute` — a pattern that looks at seconds answers alike
  throughout a second, and one that does not throughout a minute.
-/

set_option autoImplicit false

namespace Crontab

open Tick

/-! ## Moments of one minute -/

/-- Two moments of one minute differ in the second only. -/
theorem Moment.ofSeconds_of_minute {a b : Int} (h : a / 60 = b / 60) :
    Moment.ofSeconds a = { Moment.ofSeconds b with second := (Moment.ofSeconds a).second } := by
  have hday : a / 86400 = b / 86400 := by omega
  have hhour : (a % 86400).toNat / 3600 = (b % 86400).toNat / 3600 := by omega
  have hminute : (a % 86400).toNat / 60 % 60 = (b % 86400).toNat / 60 % 60 := by omega
  simp only [Moment.ofSeconds, Moment.secondsPerDay, hday, hhour, hminute]

/-- A pattern that does not look at seconds cannot tell such moments apart. -/
theorem Pattern.accepts_withSecond (p : Pattern) (m : Moment) (second : Nat) :
    p.accepts { m with second } false = p.accepts m false := rfl

/-! ## Instants of one period -/

/-- The range of dates begins and ends with a whole minute, so it holds a period of a minute, or of a
part of one, as a whole or not at all. -/
theorem Zone.representable_of_period {unit t q : Int} (hu : 0 < unit) (hd : unit ∣ minuteUnit)
    (h : period t unit = q) : representable t = representable (q * unit) := by
  obtain ⟨m, hm⟩ := hd
  have hfirst : firstInstant = -138910020480 * m * unit := by
    rw [Int.mul_assoc, Int.mul_comm m, ← hm]; rfl
  have hlast : lastInstant + 1 = 136837781280 * m * unit := by
    rw [Int.mul_assoc, Int.mul_comm m, ← hm]; rfl
  have hle : firstInstant ≤ t ↔ firstInstant ≤ q * unit := by
    rw [hfirst, ← le_period_iff hu, ← le_period_iff hu, h, period_mul hu]
  have hlt : lastInstant + 1 ≤ t ↔ lastInstant + 1 ≤ q * unit := by
    rw [hlast, ← le_period_iff hu, ← le_period_iff hu, h, period_mul hu]
  rw [representable, representable, decide_eq_decide]
  omega

/-- A zone's clocks keep one offset of whole minutes through the minute that begins at an instant. -/
structure Zone.KeepsMinutes (z : Zone) (start : Int) : Prop where
  steady : ∀ t, start ≤ t → t < start + minuteUnit →
    z.offsetAt (t / 1000) = z.offsetAt (start / 1000)
  whole : z.offsetAt (start / 1000) % 60 = 0

/-- Throughout a second the clocks show one moment. -/
theorem Zone.moment?_of_second (z : Zone) {t q : Int} (h : period t secondUnit = q) :
    z.moment? t = z.moment? (q * secondUnit) := by
  have hrep := representable_of_period (by decide) (by decide) h
  simp only [period, secondUnit] at h hrep ⊢
  have hsec : t / 1000 = q * 1000 / 1000 := by omega
  simp only [moment?, hrep, hsec]

/-- Throughout a minute the clocks show one moment but for the second. -/
theorem Zone.moment?_of_minute {z : Zone} {t q : Int} (h : period t minuteUnit = q)
    (hz : z.KeepsMinutes (q * minuteUnit)) :
    ∃ second, z.moment? t = (z.moment? (q * minuteUnit)).map fun m => { m with second } := by
  have hrep := representable_of_period (by decide) (Int.dvd_refl _) h
  obtain ⟨hlo, hhi⟩ := (period_eq_iff (by decide)).1 h
  have hoff := hz.steady t hlo (by rw [Int.add_mul, Int.one_mul] at hhi; exact hhi)
  have hwhole := hz.whole
  simp only [period, minuteUnit] at h hrep hoff hwhole ⊢
  have hmin : (t / 1000 + z.offsetAt (q * 60000 / 1000)) / 60 =
      (q * 60000 / 1000 + z.offsetAt (q * 60000 / 1000)) / 60 := by omega
  simp only [moment?, hrep, hoff]
  split
  · exact ⟨_, congrArg some (Moment.ofSeconds_of_minute hmin)⟩
  · exact ⟨0, rfl⟩

/-! ## Patterns throughout a period -/

theorem Pattern.matchesAt_of_second (p : Pattern) (z : Zone) (matchSecond : Bool) {t q : Int}
    (h : period t secondUnit = q) :
    p.matchesAt z t matchSecond = p.matchesAt z (q * secondUnit) matchSecond := by
  rw [matchesAt, matchesAt, z.moment?_of_second h]

theorem Pattern.matchesAt_of_minute (p : Pattern) {z : Zone} {t q : Int}
    (h : period t minuteUnit = q) (hz : z.KeepsMinutes (q * minuteUnit)) :
    p.matchesAt z t false = p.matchesAt z (q * minuteUnit) false := by
  obtain ⟨second, hm⟩ := Zone.moment?_of_minute h hz
  rw [matchesAt, matchesAt, hm]
  cases z.moment? (q * minuteUnit) with
  | none => rfl
  | some m => exact p.accepts_withSecond m second

end Crontab
