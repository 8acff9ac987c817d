import Crontab.Calendar.Date
import Crontab.Field
import Crontab.ValueSet

/-!
# Matchers

What one field of a sub-pattern accepts.

* `Matcher.accepts` : acceptance of a number.
* `Matcher.acceptsDay` : acceptance of a day of a given month, which may be the month's last one.
-/

set_option autoImplicit false

namespace Crontab

/-- The condition that one field of a sub-pattern puts on a moment. -/
inductive Matcher where
  | always
  | values (set : ValueSet)
  | dayOfMonth (days : ValueSet) (last : Bool)
deriving DecidableEq, Repr

namespace Matcher

/-- The matcher of a set of days, in which `Field.lastDay` stands for the last day of a month. -/
def ofDays (set : ValueSet) : Matcher :=
  .dayOfMonth (set.erase Field.lastDay) (set.contains Field.lastDay)

/-- The matcher of the values that the text of a field denotes. -/
def ofField (f : Field) (set : ValueSet) : Matcher :=
  if f = .dayOfMonth then ofDays set else .values set

/-- Whether a number is accepted; the last day of a month is not looked at. -/
def accepts : Matcher → Nat → Bool
  | .always, _ => true
  | .values set, v => set.contains v
  | .dayOfMonth days _, v => days.contains v

/-- Whether a day of a month is accepted, by its number or as the last one. -/
def acceptsDay : Matcher → (day month : Nat) → (leap : Bool) → Bool
  | .dayOfMonth days last, day, month, leap =>
    days.contains day || (last && day == lastDayOfMonth month leap)
  | m, day, _, _ => m.accepts day

end Matcher

end Crontab
