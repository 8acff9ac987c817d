import Crontab.Text.Numeral

/-!
# Reading decimal fractions

Decimal fractions with an optional exponent, and the names of the infinities and of the undefined
number, as floating-point numbers.

* `Decimal.ofText?` : the parts of a decimal fraction.
* `float?` : the nearest floating-point number.
-/

set_option autoImplicit false

namespace Crontab

open Text

/-- The number `mantissa * 10 ^ exponent`. -/
structure Decimal where
  mantissa : Nat
  exponent : Int
deriving DecidableEq, Repr

namespace Decimal

/-- Reads an exponent: nothing, or `e` or `E` before a whole number. -/
def exponent? : List Char → Option Int
  | [] => some 0
  | c :: r => if c = 'e' ∨ c = 'E' then signedDigits? r else none

/-- The fraction's digits after an optional point, and the text after them. -/
def fraction : List Char → List Char × List Char
  | '.' :: r => (r.takeWhile Char.isDigit, r.dropWhile Char.isDigit)
  | r => ([], r)

/-- Reads digits with an optional point before, between or after them, and an optional exponent. -/
def ofText? (s : List Char) : Option Decimal :=
  let whole := s.takeWhile Char.isDigit
  let (part, rest) := fraction (s.dropWhile Char.isDigit)
  if whole = [] ∧ part = [] then none
  else match exponent? rest with
    | some e => some ⟨digitsValue (whole ++ part), e - part.length⟩
    | none => none

/-- The nearest floating-point number.  Numbers beyond the largest one are infinite; numbers far
below the smallest one are zero. -/
def toFloat (d : Decimal) : Float :=
  if d.mantissa = 0 then 0
  else
    let size := d.exponent + (Nat.toDigits 10 d.mantissa).length
    if 400 < size then 1 / 0
    else if size < -400 then 0
    else if d.exponent < 0 then Float.ofScientific d.mantissa true d.exponent.natAbs
    else Float.ofScientific d.mantissa false d.exponent.natAbs

end Decimal

/-- Reads a floating-point number without a sign. -/
def unsignedFloat? (s : List Char) : Option Float :=
  let name := lower s
  if name = "inf".toList ∨ name = "infinity".toList then some (1 / 0)
  else if name = "nan".toList then some (0 / 0)
  else (Decimal.ofText? s).map Decimal.toFloat

/-- Reads a floating-point number with an optional sign. -/
def float? : List Char → Option Float
  | '-' :: r => (unsignedFloat? r).map fun x => -x
  | s => unsignedFloat? (dropPlus s)

end Crontab
