import Crontab.Field.Grammar

/-!
# What is wrong with the text of a field

Which fault a text without blanks is refused for, told without reading anything and in the words of
the refusal.  A text may have several faults.  The one that counts is the fault of the first item
that cannot be written; within an item it is that of the step, then that of the left and of the
right end of the span.

* `FirstFault` : the fault of the first of several texts.
* `Field.Spells`, `Field.NameFault`, `Text.StepFault` : the faults of values and of steps.
* `Span.Fault`, `Item.Fault` : the faults of spans and of items.
* `Field.TokenFault` : the fault of a token in a field.
-/

set_option autoImplicit false

namespace Crontab

open Text

/-- The fault of the first of several texts that has one, all texts before it being accepted.
Nothing is asked of those after it. -/
def FirstFault {α : Type} (Accepted : α → Prop) (Fault : α → String → Prop) (l : List α)
    (reason : String) : Prop :=
  ∃ before x after, l = before ++ x :: after ∧ (∀ y ∈ before, Accepted y) ∧ Fault x reason

/-! ## Values and steps -/

/-- Whether a text is a number of eight bits or an alias, legal or not. -/
def Field.Spells (f : Field) (s : List Char) (v : Nat) : Prop :=
  (v ≤ 255 ∧ IsNumeral s v) ∨ f.HasAlias s v

/-- The fault of a text that names no legal value. -/
inductive Field.NameFault (f : Field) (s : List Char) : String → Prop where
  | unparseable (h : ∀ v, ¬ f.Spells s v) :
    NameFault f s ("unparseable value '" ++ String.ofList s ++ "'")
  | outOfRange {v : Nat} (h : f.Spells s v) (hv : v < f.min ∨ f.max < v) :
    NameFault f s
      ("value " ++ toString v ++ " out of range " ++ toString f.min ++ "-" ++ toString f.max)

/-- The fault of a text that is no step. -/
inductive Text.StepFault (s : List Char) : String → Prop where
  | invalid (h : ∀ n ≤ maxUnsigned64, ¬ IsNumeral s n) :
    StepFault s ("invalid step '" ++ String.ofList s ++ "'")
  | zero (h : IsNumeral s 0) : StepFault s "step must be greater than zero"

/-! ## Spans and items -/

/-- The fault of a text that writes no span: that of its left end, then that of its right end, and
last that the ends are in the wrong order. -/
inductive Span.Fault (f : Field) : List Char → String → Prop where
  | single {s : List Char} {reason : String} (hwild : s ≠ ['*'] ∧ s ≠ ['?']) (hs : '-' ∉ s)
    (h : f.NameFault s reason) : Fault f s reason
  | left {s t : List Char} {reason : String} (hs : '-' ∉ s) (h : f.NameFault s reason) :
    Fault f (s ++ '-' :: t) reason
  | right {s t : List Char} {lo : Nat} {reason : String} (hlo : f.Names s lo)
    (h : f.NameFault t reason) : Fault f (s ++ '-' :: t) reason
  | descending {s t : List Char} {lo hi : Nat} (hlo : f.Names s lo) (hhi : f.Names t hi)
    (h : hi < lo) :
    Fault f (s ++ '-' :: t)
      ("descending range '" ++ String.ofList (s ++ '-' :: t) ++ "' is not supported")

/-- The fault of a text that writes no item: that of its step, then that of its span. -/
inductive Item.Fault (f : Field) : List Char → String → Prop where
  | empty : Fault f [] "empty value"
  | whole {s : List Char} {reason : String} (hne : s ≠ [])
    (hlast : f = .dayOfMonth → s ≠ ['l'] ∧ s ≠ ['L']) (hs : '/' ∉ s)
    (h : Span.Fault f s reason) : Fault f s reason
  | step {s t : List Char} {reason : String} (hs : '/' ∉ s) (h : StepFault t reason) :
    Fault f (s ++ '/' :: t) reason
  | stepped {s t : List Char} {n : Nat} {reason : String} (hs : '/' ∉ s) (hn : IsNumeral t n)
    (hpos : 0 < n) (hmax : n ≤ maxUnsigned64) (h : Span.Fault f s reason) :
    Fault f (s ++ '/' :: t) reason

/-- The fault of a token in a field: that of its first item that cannot be written, after the name
of the field. -/
def Field.TokenFault (f : Field) (token : List Char) (reason : String) : Prop :=
  ∃ r, FirstFault (fun s => ∃ item, Item.WrittenAs f item s) (Item.Fault f) (piecesAt ',' token) r ∧
    reason = f.name ++ " field: " ++ r

end Crontab
