/-!
# Period boundaries

Time is cut into periods of one unit, which begin at the multiples of the unit.  All times are in
milliseconds.

* `nextBoundary` : the first boundary after a time.
* `validSleep` : the sleeps that a steady clock can ask for.
* `lt_nextBoundary`, `nextBoundary_le` : the boundary lies after the time, by at most one unit.
-/

set_option autoImplicit false

namespace Crontab.Tick

/-- The milliseconds of a minute and of a second, the two units that schedulers tick at. -/
def minuteUnit : Int := 60000

@[inherit_doc minuteUnit]
def secondUnit : Int := 1000

/-- What ends a timer abnormally. -/
inductive Fault where
  | zeroUnit
  | awaitedTwice
deriving DecidableEq, Repr

/-- The wording of a fault. -/
def Fault.message : Fault → String
  | zeroUnit => "attempt to divide by zero"
  | awaitedTwice => "called after complete"

/-- The number of the period that a time lies in. -/
def period (time unit : Int) : Int := time / unit

/-- The first boundary strictly after `reference`. -/
def nextBoundary (reference unit : Int) : Int := (period reference unit + 1) * unit

/-- `nextBoundary` for a unit that may be zero, of which there is no multiple. -/
def nextBoundary? (reference unit : Int) : Except Fault Int :=
  if unit = 0 then .error .zeroUnit else .ok (nextBoundary reference unit)

/-- Whether a sleep can come from a clock that has not jumped: it is positive and shorter than two
units. -/
def validSleep (sleep unit : Int) : Bool := decide (0 < sleep ∧ sleep < 2 * unit)

theorem lt_nextBoundary {unit : Int} (h : 0 < unit) (reference : Int) :
    reference < nextBoundary reference unit := by
  unfold nextBoundary period
  rw [Int.add_mul, Int.one_mul, Int.mul_comm]
  have := Int.mul_ediv_add_emod reference unit
  have := Int.emod_lt_of_pos reference h
  omega

theorem nextBoundary_le {unit : Int} (h : 0 < unit) (reference : Int) :
    nextBoundary reference unit ≤ reference + unit := by
  unfold nextBoundary period
  rw [Int.add_mul, Int.one_mul, Int.mul_comm]
  have := Int.mul_ediv_add_emod reference unit
  have := Int.emod_nonneg reference (Int.ne_of_gt h)
  omega

end Crontab.Tick
