import Crontab.Proofs.Calendar.Reading

/-!
# Instants and what clocks show of them

A date is counted day by day from 1970-01-01.  What a zone's clocks show at an instant, counted back
into days and seconds, is that instant with the zone's offset: nothing is lost and nothing is made
up, before 1970 and beyond the last year as well.

* `Date.Counted`, `Date.counted_iff` — counting by the calendar alone, which `Date.toDays` does.
* `Date.toDays_lt_iff_year_lt` — years are periods of days.
* `Moment.recombine_ofSeconds` — the numbers of a clock and its days give back the seconds.
* `Zone.representable_iff` — dates are kept for whole years.
* `Zone.moment_recombines` — the clocks of a zone show an instant exactly.
-/

set_option autoImplicit false

namespace Crontab

/-! ## Counting days -/

namespace Date

/-- `Counted d n`: going from one day to the next one comes from 1970-01-01 to `d` in `n` days, or,
if that is negative, from `d` to 1970-01-01. -/
inductive Counted : Date → Int → Prop where
  | epoch : Counted ⟨1970, 1, 1⟩ 0
  | later {d : Date} {n : Int} (h : Counted d n) : Counted d.next (n + 1)
  | earlier {d : Date} {n : Int} (hd : d.Valid) (h : Counted d.next n) : Counted d (n - 1)

variable {d : Date} {n : Int}

theorem valid_and_toDays_of_counted (h : Counted d n) : d.Valid ∧ toDays d = n := by
  induction h with
  | epoch => exact ⟨⟨by decide, by decide, by decide, by decide⟩, rfl⟩
  | later _ ih => exact ⟨valid_next ih.1, by rw [toDays_next ih.1, ih.2]⟩
  | earlier hd _ ih =>
    rw [toDays_next hd] at ih
    exact ⟨hd, by omega⟩

theorem counted_ofDays (n : Int) : Counted (ofDays n) n := by
  induction n with
  | zero => exact .epoch
  | succ n ih =>
    rw [ofDays_add_one]
    exact .later ih
  | pred n ih =>
    refine .earlier (valid_ofDays _) ?_
    rwa [← ofDays_add_one, Int.sub_add_cancel]

/-- Every date of the calendar is counted, and by one number only. -/
theorem counted_iff : Counted d n ↔ d.Valid ∧ toDays d = n := by
  refine ⟨valid_and_toDays_of_counted, ?_⟩
  rintro ⟨hd, rfl⟩
  have h := counted_ofDays (toDays d)
  rwa [ofDays_toDays hd] at h

/-! ## Years -/

theorem newYear_mono {a b : Int} (h : a ≤ b) : toDays ⟨a, 1, 1⟩ ≤ toDays ⟨b, 1, 1⟩ := by
  have hmono := daysBeforeYear_mono (Int.sub_le_sub_right h 1)
  rw [toDays_of_winter (by decide), toDays_of_winter (by decide)]
  omega

/-- A date lies between the beginnings of its year and of the next one. -/
theorem toDays_bounds (h : d.Valid) :
    toDays ⟨d.year, 1, 1⟩ ≤ toDays d ∧ toDays d < toDays ⟨d.year + 1, 1, 1⟩ := by
  obtain ⟨year, month, day⟩ := d
  obtain ⟨hlo, hhi, hday, hlast⟩ := h
  dsimp only at hlo hhi hday hlast ⊢
  have hmax := (lastDayOfMonth_bounds month (isLeap year)).2
  have hbefore := daysBeforeYear_add_one (year - 1)
  have hyear := daysOfYear_bounds (year - 1)
  rw [Int.sub_add_cancel] at hbefore
  rw [toDays_of_winter (by decide : 1 ≤ 2), toDays_of_winter (by decide : 1 ≤ 2),
    Int.add_sub_cancel]
  rcases Nat.lt_or_ge 2 month with hspring | hwinter
  · rw [toDays_of_spring hspring]
    unfold daysBeforeMonth
    omega
  · rw [toDays_of_winter hwinter]
    unfold daysBeforeMonth
    omega

theorem toDays_lt_iff_year_lt (h : d.Valid) (year : Int) :
    toDays d < toDays ⟨year, 1, 1⟩ ↔ d.year < year := by
  obtain ⟨hlo, hhi⟩ := toDays_bounds h
  constructor
  · intro hlt
    by_contra hle
    have := newYear_mono (Int.not_lt.1 hle)
    omega
  · intro hlt
    have := newYear_mono (Int.add_one_le_of_lt hlt)
    omega

end Date

/-! ## Seconds -/

namespace Moment

/-- The date that is shown. -/
def date (m : Moment) : Date := ⟨m.year, m.month, m.dayOfMonth⟩

theorem counted_date_ofSeconds (seconds : Int) :
    (ofSeconds seconds).date.Counted (seconds / secondsPerDay) :=
  Date.counted_ofDays (seconds / secondsPerDay)

/-- The days before and the numbers of the clock give back the seconds. -/
theorem recombine_ofSeconds (seconds : Int) :
    seconds / secondsPerDay * 86400 + (ofSeconds seconds).hour * 3600 +
      (ofSeconds seconds).minute * 60 + (ofSeconds seconds).second = seconds := by
  simp only [ofSeconds, secondsPerDay]
  omega

theorem dayOfWeek_ofSeconds (seconds : Int) :
    ((ofSeconds seconds).dayOfWeek : Int) = (seconds / secondsPerDay + 4) % 7 :=
  Int.toNat_of_nonneg (Int.emod_nonneg _ (by decide))

end Moment

/-! ## Instants -/

namespace Zone

variable {z : Zone} {millis : Int} {m : Moment}

/-- The instants with a date are those of the years for which dates are kept, in UTC. -/
theorem representable_iff {d : Date} (h : d.Counted (millis / 86400000)) :
    representable millis = true ↔ firstYear ≤ d.year ∧ d.year ≤ lastYear := by
  obtain ⟨hvalid, hdays⟩ := Date.valid_and_toDays_of_counted h
  have hfirst : Date.toDays ⟨firstYear, 1, 1⟩ = -96465292 := by decide
  have hlast : Date.toDays ⟨lastYear + 1, 1, 1⟩ = 95026237 := by decide
  rw [← Int.not_lt, ← Int.lt_add_one_iff, ← Date.toDays_lt_iff_year_lt hvalid,
    ← Date.toDays_lt_iff_year_lt hvalid, hdays, hfirst, hlast, representable, decide_eq_true_eq]
  unfold firstInstant lastInstant
  omega

theorem moment?_eq_none_iff : z.moment? millis = none ↔ ¬ representable millis = true := by
  unfold moment?
  split <;> simp_all

theorem moment?_eq_some_iff :
    z.moment? millis = some m ↔
      representable millis = true ∧
        Moment.ofSeconds (millis / 1000 + z.offsetAt (millis / 1000)) = m := by
  unfold moment?
  split <;> simp_all

/-- No day is shown that its month does not have. -/
theorem dayOfMonth_le (hz : z.WithinDay) (h : z.moment? millis = some m) :
    m.dayOfMonth ≤ lastDayOfMonth m.month m.leapYear := by
  obtain ⟨hrep, rfl⟩ := moment?_eq_some_iff.1 h
  obtain ⟨hlo, hhi⟩ := days_bounds hz hrep
  refine (Date.valid_ofDays _).day_le.trans_eq ?_
  exact (lastDayOfMonth_of_days hlo hhi).symm

/-- **Clocks show an instant exactly.**  Let the clocks of a zone be less than a day from UTC.  They
show nothing just outside the range of dates, which is made of the years from the first to the last
one that are kept, in UTC.  Otherwise all numbers are in the ranges of the fields, the day is one of
the month as its length is told, and the days that the date is counted by, taken with the hour,
minute and second, are the instant's whole seconds and the zone's offset there.  The day of the week
goes by the same days. -/
theorem moment_recombines (z : Zone) (hz : z.WithinDay) (millis : Int) :
    (z.moment? millis = none ↔ ¬ (firstInstant ≤ millis ∧ millis ≤ lastInstant)) ∧
    (∀ d : Date, d.Counted (millis / 86400000) →
      (z.moment? millis = none ↔ ¬ (firstYear ≤ d.year ∧ d.year ≤ lastYear))) ∧
    ∀ m, z.moment? millis = some m →
      (m.second < 60 ∧ m.minute < 60 ∧ m.hour < 24 ∧ 1 ≤ m.month ∧ m.month ≤ 12 ∧
        m.dayOfWeek ≤ 6 ∧ 1 ≤ m.dayOfMonth ∧ m.dayOfMonth ≤ lastDayOfMonth m.month m.leapYear) ∧
      ∃ days, m.date.Counted days ∧
        days * 86400 + m.hour * 3600 + m.minute * 60 + m.second =
          millis / 1000 + z.offsetAt (millis / 1000) ∧
        (m.dayOfWeek : Int) = (days + 4) % 7 := by
  refine ⟨?_, fun d hd => ?_, fun m hm => ⟨?_, ?_⟩⟩
  · rw [moment?_eq_none_iff, representable, decide_eq_true_eq]
  · rw [moment?_eq_none_iff, representable_iff hd]
  · have hbounds := value_bounds hm
    exact ⟨Nat.lt_succ_of_le (hbounds .second).2, Nat.lt_succ_of_le (hbounds .minute).2,
      Nat.lt_succ_of_le (hbounds .hour).2, (hbounds .month).1, (hbounds .month).2,
      (hbounds .dayOfWeek).2, (hbounds .dayOfMonth).1, dayOfMonth_le hz hm⟩
  · obtain ⟨-, rfl⟩ := moment?_eq_some_iff.1 hm
    exact ⟨_, Moment.counted_date_ofSeconds _, Moment.recombine_ofSeconds _,
      Moment.dayOfWeek_ofSeconds _⟩

/-- Fourteen hours ahead of UTC the last instant lies in a year for which no dates are kept. -/
theorem moment_recombines_after_last_year :
    let zones : TimeZones := .ofList (.fixed 0) [("Etc/GMT-14", .fixed 50400)]
    ∃ z m, parse zones "Etc/GMT-14" = .ok z ∧ z.WithinDay ∧ z.moment? lastInstant = some m ∧
      m = ⟨59, 59, 13, 1, 1, 2, 262143, false⟩ ∧
      ∃ days, Date.Counted ⟨262143, 1, 1⟩ days ∧
        days * 86400 + 13 * 3600 + 59 * 60 + 59 = lastInstant / 1000 + 50400 := by
  intro zones
  have hz : parse zones "Etc/GMT-14" = .ok (.named "Etc/GMT-14" (.fixed 50400)) := by decide
  have hday : (Zone.named "Etc/GMT-14" (.fixed 50400)).WithinDay :=
    withinDay_of_forall_offsets (by decide)
  have hm : (Zone.named "Etc/GMT-14" (.fixed 50400)).moment? lastInstant =
      some ⟨59, 59, 13, 1, 1, 2, 262143, false⟩ := by decide
  obtain ⟨-, -, hshown⟩ := moment_recombines _ hday lastInstant
  obtain ⟨-, days, hcounted, hseconds, -⟩ := hshown _ hm
  exact ⟨_, _, hz, hday, hm, rfl, days, hcounted, hseconds⟩

/-- Before 1970, and less than an hour behind UTC by an odd number of seconds. -/
example : (Zone.named "Africa/Monrovia" (.ofPairs (-2670) [(63593070, 0)])).moment? (-1) =
    some ⟨29, 15, 23, 31, 12, 3, 1969, false⟩ := by decide

end Zone

end Crontab
