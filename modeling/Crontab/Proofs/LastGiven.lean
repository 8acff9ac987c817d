/-!
# What is given last

Where one thing may be given several times, the last time counts.

* `lastGiven` — the last value that the members of a list give, if any of them gives one.
* `lastGiven_cons` — what comes first counts only if nothing is given after it.
* `lastGiven_eq_none_iff` — when nothing is given.
-/

set_option autoImplicit false

namespace Crontab

variable {κ α : Type}

/-- The last value that is given in a list, of whose members `f` tells what they give. -/
def lastGiven (f : κ → Option α) (l : List κ) : Option α := (l.filterMap f).getLast?

@[simp] theorem lastGiven_nil (f : κ → Option α) : lastGiven f [] = none := rfl

theorem lastGiven_cons (f : κ → Option α) (k : κ) (l : List κ) :
    lastGiven f (k :: l) = (lastGiven f l).or (f k) := by
  unfold lastGiven
  cases h : f k with
  | none => simp [h]
  | some x => cases hl : (l.filterMap f).getLast? <;> simp [h, hl, List.getLast?_cons]

theorem lastGiven_eq_none_iff {f : κ → Option α} {l : List κ} :
    lastGiven f l = none ↔ ∀ k ∈ l, f k = none := by
  rw [lastGiven, List.getLast?_eq_none_iff, List.filterMap_eq_nil_iff]

end Crontab
