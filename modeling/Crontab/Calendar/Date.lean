/-!
# Dates of the proleptic Gregorian calendar

* `isLeapYear`, `lastDayOfMonth` : the lengths of years and months.
* `Date.toDays` : the number of days from 1970-01-01 to a date.
* `Date.ofDays` : the date a number of days after 1970-01-01.

Both directions count years from the first of March, so that a leap day ends its year.  A cycle of
400 years has 146097 days, a century 36524 and four years 1461, the last of each kind being one day
longer or shorter.
-/

set_option autoImplicit false

namespace Crontab

/-- Years divisible by 4 are leap years, save centuries not divisible by 400. -/
def isLeap (year : Int) : Bool :=
  year % 4 == 0 && (year % 100 != 0 || year % 400 == 0)

/-- The first and last year for which dates are kept. -/
def firstYear : Int := -262143

@[inherit_doc firstYear]
def lastYear : Int := 262142

/-- Whether a year for which dates are kept is a leap year; `false` for all others. -/
def isLeapYear (year : Int) : Bool :=
  decide (firstYear ≤ year ∧ year ≤ lastYear) && isLeap year

/-- The number of days of a month; a number that names no month counts as a long one. -/
def lastDayOfMonth (month : Nat) (leap : Bool) : Nat :=
  match month with
  | 2 => if leap then 29 else 28
  | 4 | 6 | 9 | 11 => 30
  | _ => 31

/-- A day of the calendar, months and days counted from one. -/
structure Date where
  year : Int
  month : Nat
  day : Nat
deriving DecidableEq, Repr

namespace Date

/-- The number of days from 0000-03-01 to 1970-01-01. -/
def epochShift : Int := 719468

/-- The days of a year, counted from the first of March, before its month `m` (0 is March). -/
def daysBeforeMonth (m : Nat) : Nat := (153 * m + 2) / 5

/-- The number of days from 1970-01-01 to a date. -/
def toDays (d : Date) : Int :=
  let y : Int := if d.month ≤ 2 then d.year - 1 else d.year
  let m : Nat := if d.month ≤ 2 then d.month + 9 else d.month - 3
  365 * y + y / 4 - y / 100 + y / 400 + (daysBeforeMonth m + d.day : Nat) - 1 - epochShift

/-- The date that comes `days` days after 1970-01-01. -/
def ofDays (days : Int) : Date :=
  let n := days + epochShift
  let cycle := n / 146097
  let inCycle := (n % 146097).toNat
  let century := Nat.min 3 (inCycle / 36524)
  let inCentury := inCycle - 36524 * century
  let four := inCentury / 1461
  let inFour := inCentury - 1461 * four
  let one := Nat.min 3 (inFour / 365)
  let inYear := inFour - 365 * one
  let m := (5 * inYear + 2) / 153
  let year : Int := 400 * cycle + (100 * century + 4 * four + one : Nat)
  { year := if m < 10 then year else year + 1
    month := if m < 10 then m + 3 else m - 9
    day := inYear - daysBeforeMonth m + 1 }

/-- The day of the week of a number of days after 1970-01-01, a Thursday; Sunday is 0. -/
def dayOfWeek (days : Int) : Nat := ((days + 4) % 7).toNat

end Date

end Crontab
