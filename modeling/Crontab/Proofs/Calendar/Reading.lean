import Crontab.Proofs.Calendar.Gregorian
import Crontab.Proofs.Pattern.Meaning
import Crontab.Zone

/-!
# What the clocks of a zone show

* `Moment.value_bounds` — clocks and calendars only show numbers in the ranges of the fields.
* `Zone.WithinDay`, `Zone.withinDay_of_forall_offsets` — clocks that are less than a day ahead of
  UTC or behind it.
* `lastDayOfMonth_of_days` — the length of a month is right wherever clocks can stand, although
  leap years are not told beyond the first and the last year.
* `Zone.dayOfMonth_add_day` — a day later the clocks show the next date.
* `Zone.last_day_iff_first_follows` — `L` means the day before the first of a month.
-/

set_option autoImplicit false

namespace Crontab

/-! ## Ranges -/

/-- Clocks and calendars show numbers in the ranges of the fields. -/
theorem Moment.value_bounds (seconds : Int) (f : Field) :
    f.min ≤ (Moment.ofSeconds seconds).value f ∧ (Moment.ofSeconds seconds).value f ≤ f.top := by
  have hdate := Date.valid_ofDays (seconds / Moment.secondsPerDay)
  have hlast := (lastDayOfMonth_bounds (Date.ofDays (seconds / secondsPerDay)).month
    (isLeap (Date.ofDays (seconds / secondsPerDay)).year)).2
  unfold Moment.secondsPerDay at *
  cases f with
  | second =>
    refine ⟨Nat.zero_le _, ?_⟩
    simp only [value, ofSeconds, Field.top, Field.max]
    omega
  | minute =>
    refine ⟨Nat.zero_le _, ?_⟩
    simp only [value, ofSeconds, Field.top, Field.max]
    omega
  | hour =>
    refine ⟨Nat.zero_le _, ?_⟩
    simp only [value, ofSeconds, secondsPerDay, Field.top, Field.max]
    omega
  | dayOfMonth => exact ⟨hdate.one_le_day, hdate.day_le.trans hlast⟩
  | month => exact ⟨hdate.one_le_month, hdate.month_le⟩
  | dayOfWeek =>
    refine ⟨Nat.zero_le _, ?_⟩
    simp only [value, ofSeconds, Date.dayOfWeek, Field.top]
    omega

theorem Zone.value_bounds {z : Zone} {millis : Int} {m : Moment} (h : z.moment? millis = some m)
    (f : Field) : f.min ≤ m.value f ∧ m.value f ≤ f.top := by
  unfold Zone.moment? at h
  split at h
  · cases h
    exact Moment.value_bounds _ f
  · cases h

/-- The length of a month hangs on leap years in February only. -/
theorem lastDayOfMonth_of_ne_february {month : Nat} (h : month ≠ 2) (leap leap' : Bool) :
    lastDayOfMonth month leap = lastDayOfMonth month leap' := by
  unfold lastDayOfMonth
  split
  · exact absurd rfl h
  all_goals rfl

/-! ## Offsets -/

namespace Zone

/-- A zone's clocks are always less than a day ahead of UTC or behind it. -/
def WithinDay (z : Zone) : Prop :=
  ∀ seconds, -Moment.secondsPerDay < z.offsetAt seconds ∧ z.offsetAt seconds < Moment.secondsPerDay

/-- It is enough that none of a zone's offsets is a day or more. -/
theorem withinDay_of_forall_offsets {z : Zone}
    (h : ∀ offset ∈ z.offsets.initial :: z.offsets.changes.map (·.offset),
      -Moment.secondsPerDay < offset ∧ offset < Moment.secondsPerDay) : z.WithinDay :=
  fun seconds => h _ (z.offsets.offsetAt_mem seconds)

/-! ## The last day of a month -/

/-- Clocks less than a day from UTC stand at most a day before the first date kept, or after the
last one. -/
theorem days_bounds {z : Zone} {millis : Int} (hz : z.WithinDay) (h : representable millis = true) :
    firstInstant / 86400000 - 1 ≤ (millis / 1000 + z.offsetAt (millis / 1000)) / Moment.secondsPerDay ∧
      (millis / 1000 + z.offsetAt (millis / 1000)) / Moment.secondsPerDay ≤
        lastInstant / 86400000 + 1 := by
  obtain ⟨hlo, hhi⟩ := of_decide_eq_true h
  obtain ⟨hbehind, hahead⟩ := hz (millis / 1000)
  simp only [firstInstant, lastInstant, Moment.secondsPerDay] at *
  omega

/-- Wherever clocks can stand that are less than a day from UTC, the length of the month is told
right.  Years for which no dates are kept are told to be no leap years, but no clock gets to a
February of these. -/
theorem lastDayOfMonth_of_days {days : Int} (hlo : firstInstant / 86400000 - 1 ≤ days)
    (hhi : days ≤ lastInstant / 86400000 + 1) :
    lastDayOfMonth (Date.ofDays days).month (isLeapYear (Date.ofDays days).year) =
      lastDayOfMonth (Date.ofDays days).month (isLeap (Date.ofDays days).year) := by
  have hvalid := Date.valid_ofDays days
  have hdays := Date.toDays_ofDays days
  generalize Date.ofDays days = d at hvalid hdays
  by_cases hfebruary : d.month = 2
  · obtain ⟨year, month, day⟩ := d
    obtain ⟨-, -, hday, hlast⟩ := hvalid
    dsimp only at hfebruary hday hlast ⊢
    subst hfebruary
    have hbounds := lastDayOfMonth_bounds 2 (isLeap year)
    have hmonth : Date.daysBeforeMonth (2 + 9) = 337 := rfl
    rw [Date.toDays_of_winter (by decide), hmonth, Date.daysBeforeYear] at hdays
    have hkept : firstYear ≤ year ∧ year ≤ lastYear := by
      simp only [firstInstant, lastInstant, Date.epochShift, firstYear, lastYear] at *
      omega
    rw [isLeapYear, decide_eq_true hkept, Bool.true_and]
  · exact lastDayOfMonth_of_ne_february hfebruary _ _

/-- A day later the calendar shows the next date. -/
theorem dayOfMonth_add_day (seconds : Int) :
    (Moment.ofSeconds (seconds + Moment.secondsPerDay)).dayOfMonth =
      (Date.ofDays (seconds / Moment.secondsPerDay)).next.day := by
  have hday : (seconds + Moment.secondsPerDay) / Moment.secondsPerDay =
      seconds / Moment.secondsPerDay + 1 := by
    unfold Moment.secondsPerDay
    omega
  rw [← Date.ofDays_add_one, ← hday]
  rfl

/-- The condition that is read from the letter of the last day. -/
theorem exists_read_last_day :
    ∃ x, Matcher.read .dayOfMonth ['L'] = .ok x ∧ ∀ day month leap,
      x.acceptsDay day month leap = true ↔ day = lastDayOfMonth month leap := by
  refine ⟨.dayOfMonth .empty true, rfl, fun day month leap => ?_⟩
  simp [Matcher.acceptsDay, ValueSet.contains, ValueSet.empty]

/-- **`L` means the day before the first of a month.**  At two representable instants a day apart at
which a zone has one offset, the condition on the day of the month that is read from `L` accepts
what the zone's clocks show at the first one exactly when they show the first of a month at the
second one. -/
theorem last_day_iff_first_follows (z : Zone) (millis : Int) (hz : z.WithinDay)
    (hfirst : representable millis = true) (hsecond : representable (millis + 86400000) = true)
    (hoffset : z.offsetAt (millis / 1000) = z.offsetAt ((millis + 86400000) / 1000)) :
    ∃ x today tomorrow, Matcher.read .dayOfMonth ['L'] = .ok x ∧ z.moment? millis = some today ∧
      z.moment? (millis + 86400000) = some tomorrow ∧
      (x.acceptsDay today.dayOfMonth today.month today.leapYear = true ↔
        tomorrow.dayOfMonth = 1) := by
  obtain ⟨x, hread, hlast⟩ := exists_read_last_day
  have hlater : (millis + 86400000) / 1000 = millis / 1000 + Moment.secondsPerDay := by
    unfold Moment.secondsPerDay
    omega
  rw [hlater] at hoffset
  refine ⟨x, _, _, hread, if_pos hfirst, if_pos hsecond, ?_⟩
  rw [hlater, ← hoffset, Int.add_right_comm, dayOfMonth_add_day, hlast]
  -- Both sides are about the date at the first instant.
  obtain ⟨hlo, hhi⟩ := days_bounds hz hfirst
  rw [Date.day_next_eq_one_iff (Date.valid_ofDays _), ← lastDayOfMonth_of_days hlo hhi]
  rfl

/-- Five hours behind UTC the clocks show a year too early to be told leap or not when the first
instant comes, and `L` accepts its last day. -/
theorem last_day_before_first_year :
    let zones : TimeZones := .ofList (.fixed 0) [("Etc/GMT+5", .fixed (-18000))]
    ∃ z, parse zones "Etc/GMT+5" = .ok z ∧ z.WithinDay ∧
      z.offsetAt (firstInstant / 1000) = z.offsetAt ((firstInstant + 86400000) / 1000) ∧
      ∃ x today, Matcher.read .dayOfMonth ['L'] = .ok x ∧ z.moment? firstInstant = some today ∧
        (today.year, today.month, today.dayOfMonth, today.leapYear) = (-262144, 12, 31, false) ∧
        x.acceptsDay today.dayOfMonth today.month today.leapYear = true := by
  intro zones
  have hz : parse zones "Etc/GMT+5" = .ok (.named "Etc/GMT+5" (.fixed (-18000))) := by decide
  have hday : (Zone.named "Etc/GMT+5" (.fixed (-18000))).WithinDay :=
    withinDay_of_forall_offsets (by decide)
  refine ⟨_, hz, hday, rfl, ?_⟩
  obtain ⟨x, today, tomorrow, hread, htoday, htomorrow, hiff⟩ :=
    last_day_iff_first_follows _ firstInstant hday (by decide) (by decide) rfl
  refine ⟨x, today, hread, htoday, ?_, hiff.2 ?_⟩
  · cases htoday
    decide
  · cases htomorrow
    decide

end Zone

end Crontab
