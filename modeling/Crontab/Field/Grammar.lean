import Crontab.Field.Item

/-!
# The grammar of a field

Which texts without blanks write the items of a field, and which numbers an item stands for, told
without reading anything.

* `Text.IsNumeral` : the ways to write a number in decimal.
* `Field.HasAlias`, `Field.Names` : the texts that name a value of a field.
* `Span.WrittenAs`, `Item.WrittenAs` : the texts of spans and of items.
* `Field.OnSteps`, `Item.Covers` : the numbers that an item stands for.
-/

set_option autoImplicit false

namespace Crontab

open Text

/-! ## Texts -/

/-- Whether a text writes a number in decimal: its digits, with any number of zeros in front of them
and at most a `+` in front of all. -/
def Text.IsNumeral (s : List Char) (n : Nat) : Prop :=
  ∃ sign zeros, (sign = [] ∨ sign = ['+']) ∧
    s = sign ++ (List.replicate zeros '0' ++ (toString n).toList)

/-- Whether a text is an alias of a value, in any letter case. -/
def Field.HasAlias (f : Field) (s : List Char) (v : Nat) : Prop :=
  ∃ i a, f.aliases[i]? = some a ∧ sameLetters s a.toList = true ∧ v = f.min + i

/-- Whether a text names a legal value.  These all fit into eight bits, so that it does not show
that a longer number is refused before it is compared with them. -/
def Field.Names (f : Field) (s : List Char) (v : Nat) : Prop :=
  (IsNumeral s v ∨ f.HasAlias s v) ∧ f.min ≤ v ∧ v ≤ f.max

/-- The texts of a span. -/
inductive Span.WrittenAs (f : Field) : Span → List Char → Prop where
  | star : WrittenAs f .every ['*']
  | mark : WrittenAs f .every ['?']
  | single {v : Nat} {s : List Char} (h : f.Names s v) : WrittenAs f (.single v) s
  | range {lo hi : Nat} {s t : List Char} (hlo : f.Names s lo) (hhi : f.Names t hi) (h : lo ≤ hi) :
    WrittenAs f (.range lo hi) (s ++ '-' :: t)

/-- The texts of an item. -/
inductive Item.WrittenAs (f : Field) : Item → List Char → Prop where
  | lower (h : f = .dayOfMonth) : WrittenAs f .lastDay ['l']
  | upper (h : f = .dayOfMonth) : WrittenAs f .lastDay ['L']
  | whole {span : Span} {s : List Char} (h : span.WrittenAs f s) :
    WrittenAs f (.values span none) s
  | stepped {span : Span} {s t : List Char} {n : Nat} (h : span.WrittenAs f s)
    (hn : IsNumeral t n) (hpos : 0 < n) (hmax : n ≤ maxUnsigned64) :
    WrittenAs f (.values span (some n)) (s ++ '/' :: t)

/-! ## Numbers -/

/-- Whether a number stands for one of those that come from `lo` on in steps of `step` and do not
exceed `hi`.  Among the days of the week 0 stands for 7, and otherwise every number for itself. -/
def Field.OnSteps (f : Field) (lo hi step v : Nat) : Prop :=
  ∃ x, lo ≤ x ∧ x ≤ hi ∧ step ∣ x - lo ∧ v = if f = .dayOfWeek ∧ x = 7 then 0 else x

/-- Whether an item stands for a number.  A value with a step goes on to the field's top, or only
to itself if it lies beyond. -/
def Item.Covers (f : Field) : Item → Nat → Prop
  | .lastDay, v => v = Field.lastDay
  | .values .every step, v => f.OnSteps f.min f.top (step.getD 1) v
  | .values (.range lo hi) step, v => f.OnSteps lo hi (step.getD 1) v
  | .values (.single x) none, v => f.OnSteps x x 1 v
  | .values (.single x) (some step), v => f.OnSteps x (max f.top x) step v

end Crontab
