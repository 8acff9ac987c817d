import Crontab.Text.Numeral

/-!
# Digits in other bases

* `radixDigits? base` : the number written by a non-empty run of digits in a base up to sixteen.
* `codePoint? digits` : the character of a code point written with so many hexadecimal digits.
-/

set_option autoImplicit false

namespace Crontab.Text

/-- The value of a hexadecimal digit. -/
def hexDigit? (c : Char) : Option Nat :=
  if c.isDigit then some (digitValue c)
  else if 'a' ≤ c ∧ c ≤ 'f' then some (c.toNat - 87)
  else if 'A' ≤ c ∧ c ≤ 'F' then some (c.toNat - 55)
  else none

/-- The value of a digit in a base up to sixteen. -/
def radixDigit? (base : Nat) (c : Char) : Option Nat :=
  match hexDigit? c with
  | some d => if d < base then some d else none
  | none => none

/-- Reads a non-empty run of digits in a base up to sixteen. -/
def radixDigits? (base : Nat) (s : List Char) : Option Nat :=
  if s = [] then none
  else s.foldl (fun acc c => match acc, radixDigit? base c with
    | some n, some d => some (base * n + d)
    | _, _ => none) (some 0)

/-- The character of a number, if it is a code point of one. -/
def scalar? (n : Nat) : Option Char :=
  if n < 0xd800 ∨ (0xdfff < n ∧ n < 0x110000) then some (Char.ofNat n) else none

/-- Reads the character of a code point written with some number of hexadecimal digits. -/
def codePoint? (digits : Nat) (s : List Char) : Option (Char × List Char) :=
  if s.length < digits then none
  else match radixDigits? 16 (s.take digits) with
    | some n => (scalar? n).map fun c => (c, s.drop digits)
    | none => none

end Crontab.Text
