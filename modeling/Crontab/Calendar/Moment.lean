import Crontab.Calendar.Date

/-!
# Moments

A moment is the reading of a calendar and a wall clock, which is what patterns constrain.

* `Moment.ofSeconds` : the reading a number of seconds after 1970-01-01 00:00.
-/

set_option autoImplicit false

namespace Crontab

/-- The reading of a wall clock and a calendar.  The numbers need not form a real date. -/
structure Moment where
  second : Nat
  minute : Nat
  hour : Nat
  dayOfMonth : Nat
  month : Nat
  dayOfWeek : Nat
  year : Int
  leapYear : Bool
deriving DecidableEq, Repr

namespace Moment

/-- The seconds of a day. -/
def secondsPerDay : Int := 86400

/-- The reading a number of seconds after 1970-01-01 00:00, both of the same clock. -/
def ofSeconds (seconds : Int) : Moment :=
  let days := seconds / secondsPerDay
  let inDay := (seconds % secondsPerDay).toNat
  let date := Date.ofDays days
  { second := inDay % 60
    minute := inDay / 60 % 60
    hour := inDay / 3600
    dayOfMonth := date.day
    month := date.month
    dayOfWeek := Date.dayOfWeek days
    year := date.year
    leapYear := isLeapYear date.year }

end Moment

end Crontab
