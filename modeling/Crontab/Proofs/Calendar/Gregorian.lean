import Crontab.Calendar.Date
import Mathlib.Tactic.IntervalCases

/-!
# Dates and the days that they are counted by

Every number of days names a date that the calendar has, and every such date is named by one number
of days.  Counting one day on goes to the next date: the next day of the month, else the first of
the next month, else the first of January.

* `Date.Valid`, `Date.next` — the dates that the calendar has, and the one that comes after.
* `Date.daysBeforeYear`, `Date.ofYear` — years that begin in March, and the dates of such a year.
* `Date.exists_year_of_ofDays`, `Date.exists_year_of_valid` — the year of a number of days, and of a
  date.
* `Date.valid_ofDays`, `Date.toDays_ofDays`, `Date.ofDays_toDays` — numbers of days and valid dates
  are the same.
* `Date.toDays_next`, `Date.ofDays_add_one` — the day after.
-/

set_option autoImplicit false

namespace Crontab

/-! ## Years and months -/

theorem isLeap_iff {year : Int} :
    isLeap year = true ↔ year % 4 = 0 ∧ (year % 100 ≠ 0 ∨ year % 400 = 0) := by
  simp [isLeap]

/-- Months have 28 to 31 days. -/
theorem lastDayOfMonth_bounds (month : Nat) (leap : Bool) :
    28 ≤ lastDayOfMonth month leap ∧ lastDayOfMonth month leap ≤ 31 := by
  unfold lastDayOfMonth
  split
  · cases leap <;> decide
  all_goals decide

namespace Date

/-- Whether the calendar has a date. -/
structure Valid (d : Date) : Prop where
  one_le_month : 1 ≤ d.month
  month_le : d.month ≤ 12
  one_le_day : 1 ≤ d.day
  day_le : d.day ≤ lastDayOfMonth d.month (isLeap d.year)

/-- The date after a date. -/
def next (d : Date) : Date :=
  if d.day < lastDayOfMonth d.month (isLeap d.year) then { d with day := d.day + 1 }
  else if d.month < 12 then ⟨d.year, d.month + 1, 1⟩
  else ⟨d.year + 1, 1, 1⟩

/-- The number of days from 0000-03-01 to the first of March of a year. -/
def daysBeforeYear (year : Int) : Int := 365 * year + year / 4 - year / 100 + year / 400

/-- The number of days of the year that begins on the first of March of `year`.  It ends with the
February of the next year. -/
def daysOfYear (year : Int) : Nat := 365 + if isLeap (year + 1) then 1 else 0

/-- The date that comes `n` days after the first of March of a year. -/
def ofYear (year : Int) (n : Nat) : Date :=
  let m := (5 * n + 2) / 153
  { year := if m < 10 then year else year + 1
    month := if m < 10 then m + 3 else m - 9
    day := n - daysBeforeMonth m + 1 }

variable {year : Int} {n m : Nat} {d : Date}

theorem daysBeforeYear_add_one (year : Int) :
    daysBeforeYear (year + 1) = daysBeforeYear year + daysOfYear year := by
  simp only [daysBeforeYear, daysOfYear, isLeap_iff]
  split <;> omega

theorem daysOfYear_bounds (year : Int) : 365 ≤ daysOfYear year ∧ daysOfYear year ≤ 366 := by
  unfold daysOfYear
  split <;> omega

/-- Months are counted by the fifths of 153 days. -/
theorem month_eq_iff :
    (5 * n + 2) / 153 = m ↔ daysBeforeMonth m ≤ n ∧ n < daysBeforeMonth (m + 1) := by
  unfold daysBeforeMonth
  omega

theorem month_le (hm : daysBeforeMonth m ≤ n) (hn : n < daysOfYear year) : m ≤ 11 := by
  have hyear := daysOfYear_bounds year
  unfold daysBeforeMonth at hm
  omega

/-- A month ends where the next one begins, if it is not the last one of its year. -/
theorem daysBeforeMonth_add_one (leap : Bool) (h : m < 11) :
    daysBeforeMonth m + lastDayOfMonth (if m < 10 then m + 3 else m - 9) leap =
      daysBeforeMonth (m + 1) := by
  interval_cases m <;> rfl

/-- The February ends the year. -/
theorem daysBeforeMonth_february (year : Int) :
    daysBeforeMonth 11 + lastDayOfMonth 2 (isLeap (year + 1)) = daysOfYear year := by
  simp only [daysOfYear, lastDayOfMonth, daysBeforeMonth]
  split <;> rfl

/-! ## The year of a day -/

section

variable {month day : Nat}

/-- January and February end the year that began in March before. -/
theorem toDays_of_winter (h : month ≤ 2) :
    toDays ⟨year, month, day⟩ =
      daysBeforeYear (year - 1) + daysBeforeMonth (month + 9) + day - 1 - epochShift := by
  simp only [toDays, if_pos h, daysBeforeYear]
  omega

theorem toDays_of_spring (h : 2 < month) :
    toDays ⟨year, month, day⟩ =
      daysBeforeYear year + daysBeforeMonth (month - 3) + day - 1 - epochShift := by
  simp only [toDays, if_neg (Nat.not_le.2 h), daysBeforeYear]
  omega

end

theorem toDays_ofYear (h : n < daysOfYear year) :
    toDays (ofYear year n) = daysBeforeYear year + n - epochShift := by
  have hmonth := (month_eq_iff (n := n)).1 rfl
  unfold ofYear
  generalize (5 * n + 2) / 153 = m at hmonth
  have hlast := month_le hmonth.1 h
  rcases Nat.lt_or_ge m 10 with hm | hm
  · simp only [if_pos hm]
    rw [toDays_of_spring (by omega), Nat.add_sub_cancel]
    omega
  · simp only [if_neg (Nat.not_lt.2 hm)]
    rw [toDays_of_winter (by omega), Int.add_sub_cancel, Nat.sub_add_cancel (by omega)]
    omega

/-- The days of a cycle of 400 years, by centuries, by fours of years and by years. -/
theorem daysBeforeYear_split {cycle : Int} {century four one : Nat} (hcentury : century ≤ 3)
    (hfour : four ≤ 24) (hone : one ≤ 3) :
    daysBeforeYear (400 * cycle + (100 * century + 4 * four + one : Nat)) =
      146097 * cycle + 36524 * century + 1461 * four + 365 * one := by
  unfold daysBeforeYear
  omega

/-- A number of days is a day of some year. -/
theorem exists_year_of_ofDays (days : Int) :
    ∃ year n, n < daysOfYear year ∧ ofDays days = ofYear year n ∧
      days + epochShift = daysBeforeYear year + n := by
  unfold ofDays
  extract_lets n cycle inCycle century inCentury four inFour one inYear m year
  have hcycle : n = 146097 * cycle + inCycle := by omega
  -- The last century of a cycle and the last year of four are one day longer than the others.
  have hcentury : century ≤ 3 ∧ inCycle = 36524 * century + inCentury ∧
      (inCentury < 36524 ∨ (century = 3 ∧ inCentury = 36524)) := by
    have hmin : century = min 3 (inCycle / 36524) := rfl
    omega
  have hfour : four ≤ 24 ∧ inCentury = 1461 * four + inFour ∧ inFour < 1461 := by omega
  have hone : one ≤ 3 ∧ inFour = 365 * one + inYear ∧
      (inYear < 365 ∨ (one = 3 ∧ inYear = 365)) := by
    have hmin : one = min 3 (inFour / 365) := rfl
    omega
  refine ⟨year, inYear, ?_, rfl, ?_⟩
  · simp only [daysOfYear, isLeap_iff]
    split <;> omega
  · rw [daysBeforeYear_split hcentury.1 hfour.1 hone.1]
    omega

theorem ofYear_of_month {day : Nat} (hday : 1 ≤ day)
    (h : daysBeforeMonth m + day ≤ daysBeforeMonth (m + 1)) :
    ofYear year (daysBeforeMonth m + (day - 1)) =
      ⟨if m < 10 then year else year + 1, if m < 10 then m + 3 else m - 9, day⟩ := by
  have hmonth : (5 * (daysBeforeMonth m + (day - 1)) + 2) / 153 = m :=
    month_eq_iff.2 ⟨by omega, by omega⟩
  have hback : daysBeforeMonth m + (day - 1) - daysBeforeMonth m + 1 = day := by omega
  simp only [ofYear, hmonth, hback]

/-- A valid date is a day of some year. -/
theorem exists_year_of_valid (h : d.Valid) : ∃ year n, n < daysOfYear year ∧ d = ofYear year n := by
  obtain ⟨year, month, day⟩ := d
  obtain ⟨hlo, hhi, hday, hlast⟩ := h
  dsimp only at hlo hhi hday hlast
  rcases Nat.lt_or_ge month 3 with hwinter | hspring
  · -- January and February end the year that began in March before.
    have hback : year - 1 + 1 = year := Int.sub_add_cancel year 1
    have hbounds := daysOfYear_bounds (year - 1)
    obtain rfl | rfl : month = 1 ∨ month = 2 := by omega
    · have hend : daysBeforeMonth 10 + day ≤ daysBeforeMonth 11 := Nat.add_le_add_left hlast 306
      have hdays : daysBeforeMonth 11 = 337 := rfl
      refine ⟨year - 1, daysBeforeMonth 10 + (day - 1), by omega, ?_⟩
      rw [ofYear_of_month hday hend]
      simp [hback]
    · have hend := daysBeforeMonth_february (year - 1)
      have hdays : daysBeforeMonth (11 + 1) = 367 := rfl
      rw [hback] at hend
      refine ⟨year - 1, daysBeforeMonth 11 + (day - 1), by omega, ?_⟩
      rw [ofYear_of_month hday (by omega)]
      simp [hback]
  · -- From March on the year has begun.
    obtain ⟨m, rfl⟩ := Nat.exists_eq_add_of_le' hspring
    have hm : m < 10 := by omega
    have hend := daysBeforeMonth_add_one (isLeap year) (Nat.lt_succ_of_lt hm)
    rw [if_pos hm] at hend
    refine ⟨year, daysBeforeMonth m + (day - 1), ?_, ?_⟩
    · have hbounds := daysOfYear_bounds year
      have : daysBeforeMonth (m + 1) ≤ 306 := by unfold daysBeforeMonth; omega
      omega
    · rw [ofYear_of_month hday (by omega), if_pos hm, if_pos hm]

theorem valid_ofYear (h : n < daysOfYear year) : (ofYear year n).Valid := by
  have hmonth := (month_eq_iff (n := n)).1 rfl
  unfold ofYear
  generalize (5 * n + 2) / 153 = m at hmonth
  have hlast := month_le hmonth.1 h
  constructor
  · dsimp only
    split <;> omega
  · dsimp only
    split <;> omega
  · exact Nat.le_add_left _ _
  · rcases Nat.lt_or_ge m 11 with hlt | hge
    · have hend := daysBeforeMonth_add_one (isLeap (if m < 10 then year else year + 1)) hlt
      dsimp only
      omega
    · obtain rfl : m = 11 := by omega
      have hend := daysBeforeMonth_february year
      simp only [Nat.reduceLT, if_false, Nat.reduceSub]
      omega

/-! ## Numbers of days and dates -/

theorem daysBeforeYear_mono {a b : Int} (h : a ≤ b) : daysBeforeYear a ≤ daysBeforeYear b := by
  unfold daysBeforeYear
  omega

/-- A day lies in one year only. -/
theorem ofYear_unique {a b : Int} {i j : Nat} (hi : i < daysOfYear a) (hj : j < daysOfYear b)
    (h : daysBeforeYear a + i = daysBeforeYear b + j) : a = b ∧ i = j := by
  have ha := daysBeforeYear_add_one a
  have hb := daysBeforeYear_add_one b
  rcases lt_trichotomy a b with hlt | rfl | hgt
  · have := daysBeforeYear_mono (Int.add_one_le_of_lt hlt)
    omega
  · exact ⟨rfl, by omega⟩
  · have := daysBeforeYear_mono (Int.add_one_le_of_lt hgt)
    omega

theorem valid_ofDays (days : Int) : (ofDays days).Valid := by
  obtain ⟨year, n, hn, hdate, -⟩ := exists_year_of_ofDays days
  rw [hdate]
  exact valid_ofYear hn

/-- The date of a number of days is counted by that number. -/
theorem toDays_ofDays (days : Int) : toDays (ofDays days) = days := by
  obtain ⟨year, n, hn, hdate, hdays⟩ := exists_year_of_ofDays days
  rw [hdate, toDays_ofYear hn]
  omega

/-- A date of the calendar is the date of the number that counts it. -/
theorem ofDays_toDays (h : d.Valid) : ofDays (toDays d) = d := by
  obtain ⟨year, n, hn, rfl⟩ := exists_year_of_valid h
  obtain ⟨year', n', hn', hdate, hdays⟩ := exists_year_of_ofDays (toDays (ofYear year n))
  rw [toDays_ofYear hn] at hdays
  obtain ⟨rfl, rfl⟩ := ofYear_unique hn hn' (by omega)
  exact hdate

/-! ## The day after -/

/-- The first of a month comes after the last day of the month before. -/
theorem toDays_month_add_one {month : Nat} (hlo : 1 ≤ month) (hhi : month < 12) :
    toDays ⟨year, month + 1, 1⟩ =
      toDays ⟨year, month, lastDayOfMonth month (isLeap year)⟩ + 1 := by
  obtain rfl | rfl | hspring : month = 1 ∨ month = 2 ∨ 2 < month := by omega
  · have hend : daysBeforeMonth (1 + 1 + 9) =
        daysBeforeMonth (1 + 9) + lastDayOfMonth 1 (isLeap year) := rfl
    rw [toDays_of_winter (by decide), toDays_of_winter (by decide), hend]
    omega
  · -- The year that begins in March is counted on from the last one's end.
    have hbefore := daysBeforeYear_add_one (year - 1)
    have hend : daysBeforeMonth (2 + 9) + lastDayOfMonth 2 (isLeap (year - 1 + 1)) =
        daysOfYear (year - 1) := daysBeforeMonth_february (year - 1)
    have hmarch : daysBeforeMonth (2 + 1 - 3) = 0 := rfl
    rw [Int.sub_add_cancel] at hbefore hend
    rw [toDays_of_spring (by decide), toDays_of_winter (by decide), hbefore, ← hend, hmarch]
    omega
  · have hend := daysBeforeMonth_add_one (m := month - 3) (isLeap year) (by omega)
    have hback : month - 3 + 1 = month + 1 - 3 := by omega
    rw [if_pos (by omega), Nat.sub_add_cancel hspring, hback] at hend
    rw [toDays_of_spring hspring, toDays_of_spring (by omega), ← hend]
    omega

/-- New Year comes after the last day of December. -/
theorem toDays_year_add_one (year : Int) :
    toDays ⟨year + 1, 1, 1⟩ = toDays ⟨year, 12, 31⟩ + 1 := by
  have hend : daysBeforeMonth (1 + 9) = daysBeforeMonth (12 - 3) + 31 := rfl
  rw [toDays_of_winter (by decide), toDays_of_spring (by decide), Int.add_sub_cancel, hend]
  omega

theorem valid_next (h : d.Valid) : d.next.Valid := by
  obtain ⟨hlo, hhi, hday, hlast⟩ := h
  have hone : ∀ month leap, 1 ≤ lastDayOfMonth month leap := fun month leap =>
    Nat.le_trans (by decide) (lastDayOfMonth_bounds month leap).1
  unfold next
  split
  · rename_i hlt
    exact ⟨hlo, hhi, Nat.le_add_left _ _, hlt⟩
  · split
    · rename_i hlt
      exact ⟨Nat.le_add_left _ _, hlt, Nat.le_refl _, hone _ _⟩
    · exact ⟨Nat.le_refl _, Nat.le_add_left _ _, Nat.le_refl _, hone _ _⟩

theorem toDays_next (h : d.Valid) : toDays d.next = toDays d + 1 := by
  obtain ⟨year, month, day⟩ := d
  obtain ⟨hlo, hhi, hday, hlast⟩ := h
  dsimp only at hlo hhi hday hlast
  unfold next
  split
  · simp only [toDays]
    omega
  · rename_i hend
    obtain rfl : day = lastDayOfMonth month (isLeap year) := Nat.le_antisymm hlast (Nat.not_lt.1 hend)
    split
    · rename_i hlt
      exact toDays_month_add_one hlo hlt
    · rename_i hlt
      obtain rfl : month = 12 := Nat.le_antisymm hhi (Nat.not_lt.1 hlt)
      exact toDays_year_add_one year

/-- The day after is the first of a month exactly when the month ends. -/
theorem day_next_eq_one_iff (h : d.Valid) :
    d.next.day = 1 ↔ d.day = lastDayOfMonth d.month (isLeap d.year) := by
  have hday := h.one_le_day
  have hlast := h.day_le
  unfold next
  split
  · dsimp only
    omega
  · have hone : ∀ e : Date, e.day = 1 → (e.day = 1 ↔ d.day = _) := fun e he =>
      iff_of_true he (Nat.le_antisymm hlast (Nat.not_lt.1 ‹_›))
    split <;> exact hone _ rfl

/-- **One day later is the next date.** -/
theorem ofDays_add_one (days : Int) : ofDays (days + 1) = (ofDays days).next := by
  have h := valid_ofDays days
  rw [← ofDays_toDays (valid_next h), toDays_next h, toDays_ofDays]

end Date

end Crontab
