/-!
# The fields of a pattern

A pattern constrains six quantities of a moment.  Each has a range of legal values, a name that
error texts use, and, for months and days of the week, three-letter aliases.

* `Field.min`, `Field.max` : the legal values; day of the week admits both 0 and 7 for Sunday.
* `Field.top` : the last value that a wildcard reaches, 6 for day of the week.
* `Field.normalize` : the one number that stands for a legal value.
* `Field.lastDay` : the number beyond all legal ones that stands for the last day of a month.
-/

set_option autoImplicit false

namespace Crontab

/-- The six quantities that a pattern constrains. -/
inductive Field where
  | second
  | minute
  | hour
  | dayOfMonth
  | month
  | dayOfWeek
deriving DecidableEq, Repr

namespace Field

/-- The name in error texts. -/
def name : Field → String
  | second => "second"
  | minute => "minute"
  | hour => "hour"
  | dayOfMonth => "day-of-month"
  | month => "month"
  | dayOfWeek => "day-of-week"

/-- The fields in the order in which a pattern writes them. -/
def all : List Field := [second, minute, hour, dayOfMonth, month, dayOfWeek]

/-- The smallest legal value: days and months count from one. -/
def min : Field → Nat
  | dayOfMonth => 1
  | month => 1
  | _ => 0

/-- The largest legal value. -/
def max : Field → Nat
  | second => 59
  | minute => 59
  | hour => 23
  | dayOfMonth => 31
  | month => 12
  | dayOfWeek => 7

/-- The last value that a wildcard, or a step from one value on, reaches: Sunday is not counted
twice. -/
def top : Field → Nat
  | dayOfWeek => 6
  | f => f.max

/-- The lower-case aliases, the first one for the smallest value. -/
def aliases : Field → List String
  | month => ["jan", "feb", "mar", "apr", "may", "jun", "jul", "aug", "sep", "oct", "nov", "dec"]
  | dayOfWeek => ["sun", "mon", "tue", "wed", "thu", "fri", "sat"]
  | _ => []

/-- The number that stands for a legal value: Sunday is 0, whichever way it was written. -/
def normalize (f : Field) (v : Nat) : Nat := if f = dayOfWeek ∧ v = 7 then 0 else v

/-- The number that stands for the last day of a month in a set of days. -/
def lastDay : Nat := 32

theorem top_le_max (f : Field) : f.top ≤ f.max := by cases f <;> decide

theorem min_le_top (f : Field) : f.min ≤ f.top := by cases f <;> decide

theorem max_lt (f : Field) : f.max < 64 := by cases f <;> decide

theorem normalize_le_top {f : Field} {v : Nat} (h : v ≤ f.max) : f.normalize v ≤ f.top := by
  unfold normalize
  split
  · exact Nat.zero_le _
  · next hn =>
    cases f <;> simp_all [top, max]
    omega

end Field

end Crontab
