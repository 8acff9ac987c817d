/-!
# The shortest text of a floating-point number

The text of a number has the fewest digits that read back as the same number, and of those the
nearest to it; there is never an exponent.

* `Binary.ofFloat` : a number as mantissa and power of two.
* `shortest` : its shortest decimal.
* `floatText` : the text.

A number reads back from every decimal in the interval half way to its two neighbours; the ends
belong to it exactly when its mantissa is even.
-/

set_option autoImplicit false

namespace Crontab

/-- A positive number `mantissa * 2 ^ exponent`.  `narrow` says that the gap to the next smaller
number is half of that to the next larger one. -/
structure Binary where
  mantissa : Nat
  exponent : Int
  narrow : Bool
deriving DecidableEq, Repr

namespace Binary

/-- The parts of a finite number's bits: the fraction has 52 bits, the exponent eleven. -/
def ofBits (bits : Nat) : Binary :=
  let fraction : Nat := bits % Nat.pow 2 52
  let exponent : Nat := bits / Nat.pow 2 52 % Nat.pow 2 11
  if exponent = 0 then ⟨fraction, -1074, false⟩
  else ⟨Nat.pow 2 52 + fraction, (exponent : Int) - 1075, fraction = 0 ∧ 1 < exponent⟩

/-- A fraction, as numerator and denominator. -/
structure Ratio where
  num : Nat
  den : Nat

/-- Whether one fraction is less than another. -/
def Ratio.lt (a b : Ratio) : Bool := decide (a.num * b.den < b.num * a.den)

/-- `n * 2 ^ e` as a fraction. -/
def scale (n : Nat) (e : Int) : Ratio :=
  if e < 0 then ⟨n, Nat.pow 2 e.natAbs⟩ else ⟨n * Nat.pow 2 e.natAbs, 1⟩

/-- The number. -/
def value (b : Binary) : Ratio := scale (4 * b.mantissa) (b.exponent - 2)

/-- The lower end of the interval that reads back as the number. -/
def low (b : Binary) : Ratio :=
  scale (4 * b.mantissa - if b.narrow then 1 else 2) (b.exponent - 2)

/-- The upper end of the interval that reads back as the number. -/
def high (b : Binary) : Ratio := scale (4 * b.mantissa + 2) (b.exponent - 2)

/-- Whether a decimal reads back as the number. -/
def readsBack (b : Binary) (x : Ratio) : Bool :=
  if b.mantissa % 2 = 0 then !x.lt b.low && !b.high.lt x else b.low.lt x && x.lt b.high

/-- `n * 10 ^ e` as a fraction. -/
def decimal (n : Nat) (e : Int) : Ratio :=
  if e < 0 then ⟨n, Nat.pow 10 e.natAbs⟩ else ⟨n * Nat.pow 10 e.natAbs, 1⟩

/-- The largest multiple of `10 ^ e` that does not exceed the number, as a count of steps. -/
def floorAt (b : Binary) (e : Int) : Nat :=
  let v := b.value
  if e < 0 then v.num * Nat.pow 10 e.natAbs / v.den else v.num / (v.den * Nat.pow 10 e.natAbs)

/-- The power of ten of the first digit: the number is at least this power and less than the
next. -/
def leading (b : Binary) : Int :=
  let v := b.value
  let whole := v.num / v.den
  if 0 < whole then (Nat.toDigits 10 whole).length - 1
  else
    let fine := v.num * Nat.pow 10 400 / v.den
    ((Nat.toDigits 10 fine).length : Int) - 401

/-- The difference of two fractions. -/
def Ratio.distance (a b : Ratio) : Ratio :=
  let x := a.num * b.den
  let y := b.num * a.den
  ⟨(x - y) + (y - x), a.den * b.den⟩

/-- The neighbour of the number on the grid of `10 ^ e` that reads back as it, the nearer one if both
do.  Of two at the same distance it is the larger one. -/
def candidate? (b : Binary) (e : Int) : Option Nat :=
  let n := b.floorAt e
  let lower := decimal n e
  let upper := decimal (n + 1) e
  match b.readsBack lower, b.readsBack upper with
  | true, true =>
    let down := Ratio.distance b.value lower
    let up := Ratio.distance b.value upper
    some (if down.lt up then n else n + 1)
  | true, false => some n
  | false, true => some (n + 1)
  | false, false => none

/-- The first grid, from `10 ^ e` on towards finer ones, with a decimal that reads back. -/
def search (b : Binary) : (grids : Nat) → (e : Int) → Nat × Int
  | 0, e => (b.floorAt e, e)
  | grids + 1, e =>
    match b.candidate? e with
    | some n => (n, e)
    | none => search b grids (e - 1)

/-- The shortest decimal that reads back, as digits and a power of ten.  It ends in a zero when the
number lies just below a power of ten that reads back. -/
def shortest (b : Binary) : Nat × Int :=
  let (n, e) := b.search 17 b.leading
  if n % 10 = 0 then (n / 10, e + 1) else (n, e)

end Binary

/-- The digits of `n * 10 ^ e` without an exponent. -/
def positional (n : Nat) (e : Int) : List Char :=
  let digits := Nat.toDigits 10 n
  if 0 ≤ e then digits ++ List.replicate e.toNat '0'
  else
    let places := e.natAbs
    let padded := List.replicate (places + 1 - digits.length) '0' ++ digits
    let cut := padded.length - places
    padded.take cut ++ '.' :: padded.drop cut

/-- The text of a floating-point number: the fewest digits that read back as it, without an
exponent. -/
def floatText (x : Float) : String :=
  if x.isNaN then "NaN"
  else
    let bits := x.toBits.toNat
    let body :=
      if x.isInf then "inf".toList
      else if bits % Nat.pow 2 63 = 0 then ['0']
      else
        let (n, e) := (Binary.ofBits bits).shortest
        positional n e
    String.ofList (if bits / Nat.pow 2 63 = 1 then '-' :: body else body)

end Crontab
