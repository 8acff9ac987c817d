import Crontab.Text.Blank

/-!
# Numbers written in decimal

* `digits?` : the number written by a non-empty run of ASCII digits.
* `natural? bound` : the same with an optional leading `+`, refused beyond `bound`.
* `integer? lo hi` : with an optional leading sign, refused outside `lo` to `hi`.

Leading zeros are allowed everywhere; blanks and separators nowhere.
-/

set_option autoImplicit false

namespace Crontab.Text

/-- The value of an ASCII digit. -/
def digitValue (c : Char) : Nat := c.toNat - '0'.toNat

/-- The number that a run of digits denotes. -/
def digitsValue (s : List Char) : Nat := s.foldl (fun n c => 10 * n + digitValue c) 0

/-- Reads a non-empty run of ASCII digits. -/
def digits? (s : List Char) : Option Nat :=
  if s ≠ [] ∧ s.all Char.isDigit then some (digitsValue s) else none

/-- A text without one leading `+`. -/
def dropPlus : List Char → List Char
  | '+' :: r => r
  | s => s

/-- Reads a natural number of at most `bound`, with an optional leading `+`. -/
def natural? (bound : Nat) (s : List Char) : Option Nat :=
  match digits? (dropPlus s) with
  | some n => if n ≤ bound then some n else none
  | none => none

/-- Reads digits with an optional leading sign. -/
def signedDigits? : List Char → Option Int
  | '-' :: r => (digits? r).map fun n => -(Int.ofNat n)
  | s => (digits? (dropPlus s)).map Int.ofNat

/-- Reads an integer from `lo` to `hi`, with an optional leading sign. -/
def integer? (lo hi : Int) (s : List Char) : Option Int :=
  match signedDigits? s with
  | some n => if lo ≤ n ∧ n ≤ hi then some n else none
  | none => none

/-- The largest number of 64 bits without a sign. -/
def maxUnsigned64 : Nat := 0xffffffffffffffff

/-- The smallest number of 64 bits with a sign. -/
def minSigned64 : Int := -0x8000000000000000

/-- The largest number of 64 bits with a sign. -/
def maxSigned64 : Int := 0x7fffffffffffffff

/-- Reads an integer of 64 bits with a sign. -/
def integer64? (s : List Char) : Option Int := integer? minSigned64 maxSigned64 s

end Crontab.Text
