import Crontab.Field
import Crontab.Text.Split
import Crontab.Text.Numeral
import Crontab.ValueSet

/-!
# The text of one field

A field is a comma-separated list of items.  An item is `L` (day of month only) or a span with an
optional step; a span is a wildcard, one value or a range of values.

* `Item.read`, `readItems` : items from text, or the first defect from the left.
* `Item.members` : the values of an item.
* `readField` : the set of values that a field's text denotes.

Within an item the step is read before the span, and the left end of a range before the right one.
-/

set_option autoImplicit false

namespace Crontab

open Text

/-- Why the text of a field is refused. -/
inductive FieldDefect where
  | emptyValue
  | invalidStep (text : String)
  | zeroStep
  | descendingRange (text : String)
  | unparseable (text : String)
  | outOfRange (value : Nat)
deriving DecidableEq, Repr

/-- The wording of a defect of a field. -/
def FieldDefect.reason (f : Field) : FieldDefect → String
  | emptyValue => "empty value"
  | invalidStep t => "invalid step '" ++ t ++ "'"
  | zeroStep => "step must be greater than zero"
  | descendingRange t => "descending range '" ++ t ++ "' is not supported"
  | unparseable t => "unparseable value '" ++ t ++ "'"
  | outOfRange v =>
    "value " ++ toString v ++ " out of range " ++ toString f.min ++ "-" ++ toString f.max

/-- The values that an item names before it steps over them. -/
inductive Span where
  | every
  | single (value : Nat)
  | range (lo hi : Nat)
deriving DecidableEq, Repr

/-- One of the comma-separated items of a field. -/
inductive Item where
  | lastDay
  | values (span : Span) (step : Option Nat)
deriving DecidableEq, Repr

/-! ## Meaning -/

/-- The first and last value that a span may reach.  A single value with a step goes on to the
field's top. -/
def Span.bounds (f : Field) : Span → Option Nat → Nat × Nat
  | .every, _ => (f.min, f.top)
  | .range lo hi, _ => (lo, hi)
  | .single v, none => (v, v)
  | .single v, some _ => (v, Nat.max f.top v)

/-- The numbers from `lo` on in steps of `step` that do not exceed `hi`. -/
def progression (lo hi step : Nat) : List Nat := List.range' lo ((hi - lo) / step + 1) step

/-- The values of an item. -/
def Item.members (f : Field) : Item → List Nat
  | .lastDay => [Field.lastDay]
  | .values span step =>
    let (lo, hi) := span.bounds f step
    (progression lo hi (step.getD 1)).map f.normalize

/-- The set of values of a list of items. -/
def itemSet (f : Field) (items : List Item) : ValueSet :=
  ValueSet.ofList (items.flatMap (Item.members f))

/-! ## Reading -/

/-- The value that an alias of the field stands for, in any letter case. -/
def aliasValue? (f : Field) (s : List Char) : Option Nat :=
  (f.aliases.findIdx? fun a => lower s == a.toList).map (· + f.min)

/-- A value without its legality: a decimal number of eight bits or an alias. -/
def rawValue? (f : Field) (s : List Char) : Option Nat :=
  match natural? 255 s with
  | some v => some v
  | none => aliasValue? f s

/-- Reads a legal value; blanks around it do not matter. -/
def readValue (f : Field) (s : List Char) : Except FieldDefect Nat :=
  match rawValue? f (trim s) with
  | none => .error (.unparseable (String.ofList (trim s)))
  | some v => if f.min ≤ v ∧ v ≤ f.max then .ok v else .error (.outOfRange v)

/-- Reads a step; blanks around it do not matter. -/
def readStep (s : List Char) : Except FieldDefect Nat :=
  match natural? maxUnsigned64 (trim s) with
  | none => .error (.invalidStep (String.ofList s))
  | some 0 => .error .zeroStep
  | some n => .ok n

/-- The two spellings of "any value". -/
def isWildcard (s : List Char) : Bool := s == ['*'] || s == ['?']

/-- Reads a span. -/
def readSpan (f : Field) (s : List Char) : Except FieldDefect Span :=
  if isWildcard s then .ok .every
  else match cut '-' s with
    | some (a, b) =>
      match readValue f a with
      | .error e => .error e
      | .ok lo =>
        match readValue f b with
        | .error e => .error e
        | .ok hi =>
          if hi < lo then .error (.descendingRange (String.ofList s)) else .ok (.range lo hi)
    | none =>
      match readValue f s with
      | .error e => .error e
      | .ok v => .ok (.single v)

/-- Reads an item that has no blanks at its ends. -/
def Item.read (f : Field) (s : List Char) : Except FieldDefect Item :=
  if s = [] then .error .emptyValue
  else if f = .dayOfMonth ∧ sameLetters s ['l'] then .ok .lastDay
  else match cut '/' s with
    | some (a, b) =>
      match readStep b with
      | .error e => .error e
      | .ok n =>
        match readSpan f a with
        | .error e => .error e
        | .ok span => .ok (.values span (some n))
    | none =>
      match readSpan f s with
      | .error e => .error e
      | .ok span => .ok (.values span none)

/-- Reads items one after another; the first defect ends the reading. -/
def readItems (f : Field) : List (List Char) → Except FieldDefect (List Item)
  | [] => .ok []
  | s :: r =>
    match Item.read f (trim s) with
    | .error e => .error e
    | .ok i =>
      match readItems f r with
      | .error e => .error e
      | .ok is => .ok (i :: is)

/-- The set of values that the text of a field denotes. -/
def readField (f : Field) (s : List Char) : Except FieldDefect ValueSet :=
  match readItems f (piecesAt ',' s) with
  | .error e => .error e
  | .ok items => .ok (itemSet f items)

end Crontab
