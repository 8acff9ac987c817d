import Crontab.Pattern

/-!
# Patterns in writing

How sets of numbers are written as the text of a pattern: the numbers of a field in decimal with
commas between, the six fields with blanks between, and the sub-patterns with bars between.

* `Field.Holds` : the numbers that a set of a field may hold.
* `Field.write` : the numbers of a field, in any order and with any repetitions.
* `Writing` : what is written for a sub-pattern.
* `Writing.writeAll` : the text of a pattern.
-/

set_option autoImplicit false

namespace Crontab

open Text

namespace Field

/-- Whether a set of the field may hold a number.  A set of days may hold `lastDay`, and Sunday is
0 in a set of days of the week. -/
def Holds (f : Field) (v : Nat) : Prop := (f.min ≤ v ∧ v ≤ f.top) ∨ (f = dayOfMonth ∧ v = lastDay)

instance (f : Field) (v : Nat) : Decidable (f.Holds v) :=
  inferInstanceAs (Decidable (_ ∨ _))

/-- A number in decimal, or the letter of the last day. -/
def writeValue (f : Field) (v : Nat) : List Char :=
  if f = dayOfMonth ∧ v = lastDay then ['L'] else (toString v).toList

/-- Numbers with commas between. -/
def write (f : Field) (values : List Nat) : List Char := [','].intercalate (values.map f.writeValue)

end Field

/-- A sub-pattern in writing: the numbers written in each field, and what stands in front of it. -/
structure Writing where
  values : Field → List Nat
  gap : Field → List Char
  values_ne_nil : ∀ f, values f ≠ []
  holds : ∀ f, ∀ v ∈ values f, f.Holds v
  isBlank_gap : ∀ f, ∀ c ∈ gap f, isBlank c = true
  /-- Only the first field may have nothing in front of it. -/
  gap_ne_nil : ∀ f, f ≠ .second → gap f ≠ []

namespace Writing

/-- The text of a sub-pattern. -/
def write (w : Writing) : List Char := Field.all.flatMap fun f => w.gap f ++ f.write (w.values f)

/-- The text of a pattern. -/
def writeAll (ws : List Writing) : String := String.ofList (['|'].intercalate (ws.map write))

end Writing

end Crontab
