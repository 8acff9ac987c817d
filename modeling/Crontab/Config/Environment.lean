import Crontab.Config.Error
import Crontab.Config.KeyPath
import Crontab.Decimal.Reader

/-!
# Configuration from the environment

Variables whose names begin with `CRONUS_`, in any letter case, set values: the rest of the name is
a key path in which two underscores stand for a point.

* `Variable.key?` : the key path text of a variable, if it is one of ours.
* `Environment.value` : the value that a variable's text stands for.
* `Environment.entries` : the settings of an environment.
-/

set_option autoImplicit false

namespace Crontab

open Text

/-- A variable of the environment; its value is any sequence of bytes. -/
structure Variable where
  name : String
  value : ByteArray

namespace Environment

/-- Lower case of a variable's name.  The Kelvin sign is the one character beyond ASCII whose lower
case belongs to ASCII; others never become part of a key path. -/
def lowerName (s : List Char) : List Char :=
  s.map fun c => if c = '\u212a' then 'k' else c.toLower

/-- The rest of a text after a beginning. -/
def after? : (beginning s : List Char) → Option (List Char)
  | [], s => some s
  | c :: b, d :: s => if c = d then after? b s else none
  | _ :: _, [] => none

/-- Two underscores become a point, from the left. -/
def pointed : List Char → List Char
  | '_' :: '_' :: r => '.' :: pointed r
  | c :: r => c :: pointed r
  | [] => []

/-- What names begin with, in lower case. -/
def beginning : List Char := "cronus_".toList

/-- The key path text that a variable's name stands for. -/
def key? (name : String) : Option (List Char) :=
  (after? beginning (lowerName name.toList)).map pointed

/-- The value that a text stands for: a truth value, a whole number, a fraction, or the text. -/
def value (s : List Char) : Value :=
  let word := lower s
  if word = "true".toList then .bool true
  else if word = "false".toList then .bool false
  else match integer64? s with
    | some n => .int n
    | none =>
      match float? s with
      | some x => .float x
      | none => .str (String.ofList s)

/-- The settings of an environment, key path texts with values.  Other variables do not matter, not
even if they are no texts. -/
def entries : List Variable → Except ConfigError (List (List Char × Value))
  | [] => .ok []
  | v :: r =>
    match key? v.name with
    | none => entries r
    | some key =>
      match String.fromUTF8? v.value with
      | none => .error .malformedVariable
      | some s =>
        match entries r with
        | .error e => .error e
        | .ok es => .ok ((key, value s.toList) :: es)

end Environment

end Crontab
