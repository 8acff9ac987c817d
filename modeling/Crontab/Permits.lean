/-!
# Limits on executions at once

An execution under a limit takes a permit while it runs, and waits for one if none is left.

* `permits` : how many permits a limit gives.
* `checkLimit` : whether so many permits can be counted.
-/

set_option autoImplicit false

namespace Crontab

/-- The most permits that can be counted. -/
def maxPermits : Nat := 0x1fffffffffffffff

/-- The executions that may run at once under a limit: at least one. -/
def permits (limit : Nat) : Nat := Nat.max limit 1

/-- A limit gives more permits than can be counted. -/
inductive LimitError where
  | tooManyPermits
deriving DecidableEq, Repr

/-- The wording of a limit's error. -/
def LimitError.message : LimitError → String
  | tooManyPermits =>
    "a semaphore may not have more than MAX_PERMITS permits (" ++ toString maxPermits ++ ")"

/-- Whether the permits of a limit can be counted.  Without a limit there are none to count. -/
def checkLimit (limit : Option Nat) : Except LimitError Unit :=
  if limit.any fun n => maxPermits < permits n then .error .tooManyPermits else .ok ()

theorem one_le_permits (limit : Nat) : 1 ≤ permits limit := Nat.le_max_right limit 1

/-- A limit is refused exactly when it is above the most permits. -/
theorem checkLimit_some_eq_error_iff {n : Nat} :
    checkLimit (some n) = .error .tooManyPermits ↔ maxPermits < n := by
  have h : maxPermits < permits n ↔ maxPermits < n := by
    have h1 : permits n = max n 1 := rfl
    rw [h1]
    simp only [maxPermits]
    omega
  by_cases hn : maxPermits < n <;> simp [checkLimit, h, hn]

end Crontab
