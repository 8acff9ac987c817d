import Crontab.Config.Error
import Crontab.Config.Value
import Crontab.Text.Blank
import Crontab.Text.Numeral

/-!
# Key paths

A key path names a place in a configuration: a key, followed by keys after points and by positions
in brackets.  A negative position counts from the end of a list.

* `KeyPath.parse?` : a path from text.
* `KeyPath.get?` : the value at a place.
* `KeyPath.put` : the configuration with a value laid over that place; what stands in the way
  becomes a table or a list.
-/

set_option autoImplicit false

namespace Crontab

open Text

/-- A step into a value. -/
inductive PathStep where
  | key (name : String)
  | index (position : Int)
deriving DecidableEq, Repr

/-- A place in a configuration. -/
structure KeyPath where
  root : String
  steps : List PathStep
deriving DecidableEq, Repr

namespace KeyPath

/-- The characters of keys. -/
def isKeyChar (c : Char) : Bool := c.isAlphanum || c == '_' || c == '-'

/-- Whether a character may stand around a position in brackets. -/
def isGap (c : Char) : Bool := c == ' ' || c == '\t'

/-- Reads the inside of brackets: a whole number, with a `-` or no sign, and blanks around it. -/
def position? (s : List Char) : Option Int :=
  let inner := ((s.dropWhile isGap).reverse.dropWhile isGap).reverse
  if inner.head? = some '+' then none else integer64? inner

/-- Reads the steps of a path; `fuel` bounds their number. -/
def steps? : (fuel : Nat) → List Char → Option (List PathStep)
  | _, [] => some []
  | 0, _ => none
  | fuel + 1, '.' :: r =>
    let name := r.takeWhile isKeyChar
    if name = [] then none
    else (steps? fuel (r.dropWhile isKeyChar)).map (.key (String.ofList name) :: ·)
  | fuel + 1, '[' :: r =>
    match r.dropWhile (· ≠ ']') with
    | _ :: rest =>
      match position? (r.takeWhile (· ≠ ']')) with
      | some i => (steps? fuel rest).map (.index i :: ·)
      | none => none
    | [] => none
  | _ + 1, _ => none

/-- Reads a key path. -/
def parse? (s : List Char) : Option KeyPath :=
  let name := s.takeWhile isKeyChar
  if name = [] then none
  else (steps? s.length (s.dropWhile isKeyChar)).map fun steps => ⟨String.ofList name, steps⟩

/-- The value one step further. -/
def step? (v : Value) : PathStep → Option Value
  | .key name => v.field? name
  | .index i =>
    match v with
    | .array items =>
      let at' := if i < 0 then i + items.length else i
      if at' < 0 then none else items[at'.toNat]?
    | _ => none

/-- The value some steps further. -/
def follow? (v : Value) : List PathStep → Option Value
  | [] => some v
  | s :: r =>
    match step? v s with
    | some w => follow? w r
    | none => none

/-- The value at a place. -/
def get? (p : KeyPath) (root : Value) : Option Value := follow? root (.key p.root :: p.steps)

/-- The value with another one laid over the place that some steps lead to. -/
def putAlong (v : Value) : List PathStep → Value → Value
  | [], new => v.merge new
  | .key name :: r, new =>
    let inner := putAlong ((v.field? name).getD .nil) r new
    .table (Value.setField name inner v.fields)
  | .index i :: r, new =>
    let items := match v with
      | .array items => items
      | _ => []
    let front : Nat := if i < 0 then (-(i + items.length)).toNat else 0
    let place : Nat := if i < 0 then (i + items.length).toNat else i.toNat
    let wide := List.replicate front .nil ++ items
    let wide := wide ++ List.replicate (place + 1 - wide.length) .nil
    .array (wide.set place (putAlong (wide.getD place .nil) r new))

/-- The configuration with a value laid over a place. -/
def put (p : KeyPath) (root new : Value) : Value := putAlong root (.key p.root :: p.steps) new

end KeyPath

end Crontab
