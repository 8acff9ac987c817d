import Crontab.Config.Error
import Crontab.Config.Value
import Crontab.Decimal.Shortest
import Crontab.Text.Numeral

/-!
# Reading values as texts, switches and counts

Values are read leniently: numbers and switches as texts, words and numbers as switches, and so on.

* `Value.text`, `Value.switch`, `Value.count` : a value as a text, a truth value, a natural number.
* `Value.count?` : the same, where no value stands for none.
-/

set_option autoImplicit false

namespace Crontab

open Text

/-- The words for "on" and for "off", in any letter case. -/
def switchWord? (s : List Char) : Option Bool :=
  let w := String.ofList (lower s)
  if w = "true" ∨ w = "on" ∨ w = "yes" then some true
  else if w = "false" ∨ w = "off" ∨ w = "no" then some false
  else none

namespace Value

/-- A value as a text. -/
def text : Value → Except ConfigError String
  | str s => .ok s
  | bool b => .ok (if b then "true" else "false")
  | int n => .ok (toString n)
  | float x => .ok (floatText x)
  | nil | array _ | table _ => .error .wrongType

/-- A value as a truth value. -/
def switch : Value → Except ConfigError Bool
  | bool b => .ok b
  | int n => .ok (n != 0)
  | float x => .ok (x != 0)
  | str s =>
    match switchWord? s.toList with
    | some b => .ok b
    | none => if s = "1" then .ok true else if s = "0" then .ok false else .error .wrongType
  | nil | array _ | table _ => .error .wrongType

/-- A value as a natural number of 64 bits.  Fractions are rounded, a half away from zero, and
clamped to the numbers there are. -/
def count : Value → Except ConfigError Nat
  | int n => if 0 ≤ n ∧ n ≤ maxUnsigned64 then .ok n.toNat else .error .wrongType
  | float x => .ok x.round.toUInt64.toNat
  | bool b => .ok (if b then 1 else 0)
  | str s =>
    match switchWord? s.toList with
    | some b => .ok (if b then 1 else 0)
    | none =>
      match natural? maxUnsigned64 s.toList with
      | some n => .ok n
      | none => .error .wrongType
  | nil | array _ | table _ => .error .wrongType

/-- A value as a count that may be absent. -/
def count? : Value → Except ConfigError (Option Nat)
  | nil => .ok none
  | v =>
    match v.count with
    | .ok n => .ok (some n)
    | .error e => .error e

end Value

end Crontab
