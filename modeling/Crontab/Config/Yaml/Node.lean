import Crontab.Config.Value
import Crontab.Decimal.Reader
import Crontab.Text.Radix

/-!
# YAML nodes

What stands in a YAML document: scalars, whose kind shows in their spelling or their tag, lists, and
tables.

* `Scalar.ofPlain` : the scalar of a text without quotes.
* `Scalar.ofTagged` : the same where a tag says what it should be.
* `Node.tableOf?` : the table of some nodes, which are its keys and values in turn.
* `Node.value?` : the value that a node stands for.
-/

set_option autoImplicit false

namespace Crontab.Yaml

open Text

/-- A single value as it is written.  `misfit` stands for a text that its tag does not fit, and for
a reference to something that is not complete yet. -/
inductive Scalar where
  | nil
  | bool (b : Bool)
  | int (n : Int)
  | real (text : String)
  | str (text : String)
  | misfit
deriving DecidableEq, Repr

/-- What a tag asks for: one of the standard kinds, by its name, or anything else. -/
inductive Tag where
  | standard (name : String)
  | custom
deriving DecidableEq, Repr

/-- The spellings of the infinities and of the undefined number. -/
def specialReals : List String :=
  [".inf", ".Inf", ".INF", "+.inf", "+.Inf", "+.INF", "-.inf", "-.Inf", "-.INF",
    ".nan", ".NaN", ".NAN"]

/-- Whether a text is a fraction: it holds a digit and reads as a number, or it is a special
spelling. -/
def isReal (s : List Char) : Bool :=
  specialReals.contains (String.ofList s) || (s.any Char.isDigit && (float? s).isSome)

/-- Reads a whole number of 64 bits in another base, with an optional sign before its digits. -/
def based? (base : Nat) (s : List Char) : Option Int :=
  let n? := match s with
    | '-' :: r => (radixDigits? base r).map fun n => -(Int.ofNat n)
    | s => (radixDigits? base (dropPlus s)).map Int.ofNat
  match n? with
  | some n => if minSigned64 ≤ n ∧ n ≤ maxSigned64 then some n else none
  | none => none

/-- Reads a whole number, in base sixteen after `0x` and in base eight after `0o`. -/
def whole? (s : List Char) : Option Int :=
  let marked := match s with
    | '0' :: 'x' :: r => based? 16 r
    | '0' :: 'o' :: r => based? 8 r
    | '+' :: r => integer64? r
    | _ => none
  match marked with
  | some n => some n
  | none => integer64? s

namespace Scalar

/-- The scalar of a text without quotes. -/
def ofPlain (s : List Char) : Scalar :=
  match whole? s with
  | some n => int n
  | none =>
    match String.ofList s with
    | "" | "~" | "null" => nil
    | "true" | "True" | "TRUE" => bool true
    | "false" | "False" | "FALSE" => bool false
    | t => if isReal s then real t else str t

/-- The scalar of a text without quotes and with a tag. -/
def ofTagged (tag : Tag) (s : List Char) : Scalar :=
  let t := String.ofList s
  match tag with
  | .standard "bool" => if t = "true" then bool true else if t = "false" then bool false else misfit
  | .standard "int" =>
    match integer64? s with
    | some n => int n
    | none => misfit
  | .standard "float" => if isReal s then real t else misfit
  | .standard "null" => if t = "~" ∨ t = "null" then nil else misfit
  | _ => str t

/-- The value of a scalar.  The special spellings of fractions have none. -/
def value? : Scalar → Option Value
  | nil | misfit => some .nil
  | bool b => some (.bool b)
  | int n => some (.int n)
  | real t => (float? t.toList).map Value.float
  | str t => some (.str t)

/-- The name that a scalar stands for as a key. -/
def name? : Scalar → Option String
  | bool b => some (if b then "true" else "false")
  | int n => some (toString n)
  | real t | str t => some t
  | nil | misfit => none

end Scalar

/-- A part of a document.  Of a table, the keys and the values are kept in turn. -/
inductive Node where
  | scalar (s : Scalar)
  | list (items : List Node)
  | table (parts : List Node)
deriving Inhabited

namespace Node

/-- The node where nothing is written. -/
def nil : Node := scalar .nil

mutual

/-- Whether two nodes are written alike. -/
def same : Node → Node → Bool
  | scalar a, scalar b => a == b
  | list a, list b => sameAll a b
  | table a, table b => sameAll a b
  | _, _ => false

/-- Whether the nodes of two lists are written alike. -/
def sameAll : List Node → List Node → Bool
  | [], [] => true
  | a :: r, b :: s => same a b && sameAll r s
  | _, _ => false

end

/-- The keys and values among some nodes, in turn.  No key may come twice.  A misfit is no key, so
that what follows it is taken for one; a key without a value does not count. -/
def parts? (seen : List Node) : List Node → Option (List Node)
  | [] | [_] => some []
  | scalar .misfit :: r => parts? seen r
  | k :: v :: r =>
    if seen.any (same k) then none else (parts? (k :: seen) r).map fun ps => k :: v :: ps

/-- The table of some nodes. -/
def tableOf? (nodes : List Node) : Option Node := (parts? [] nodes).map table

/-- The name that a node stands for as a key. -/
def name? : Node → Option String
  | scalar s => s.name?
  | list _ | table _ => none

mutual

/-- The value of a node. -/
def value? : Node → Option Value
  | scalar s => s.value?
  | list items => (itemValues? items).map .array
  | table parts => (fieldValues? [] parts).map .table

/-- The values of the items of a list. -/
def itemValues? : List Node → Option (List Value)
  | [] => some []
  | n :: r =>
    match value? n, itemValues? r with
    | some v, some vs => some (v :: vs)
    | _, _ => none

/-- The fields of a table, laid over other ones.  Of two keys with one name the later one counts. -/
def fieldValues? (fields : List (String × Value)) : List Node → Option (List (String × Value))
  | [] | [_] => some fields
  | k :: v :: r =>
    match k.name?, value? v with
    | some name, some w => fieldValues? (Value.setField name w fields) r
    | _, _ => none

end

end Node

end Crontab.Yaml
