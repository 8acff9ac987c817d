/-!
# Configuration values

A configuration is a tree of values; its tables pair names with values.

* `Value.field?` : the value of a name in a table.
* `Value.merge` : a value laid over another one; tables are merged name by name.
-/

set_option autoImplicit false

namespace Crontab

/-- A value of a configuration. -/
inductive Value where
  | nil
  | bool (b : Bool)
  | int (n : Int)
  | float (x : Float)
  | str (s : String)
  | array (items : List Value)
  | table (fields : List (String × Value))
deriving Repr, Inhabited

namespace Value

/-- The fields with one name given a value; a new name comes last. -/
def setField (name : String) (v : Value) : List (String × Value) → List (String × Value)
  | [] => [(name, v)]
  | (n, w) :: r => if n = name then (n, v) :: r else (n, w) :: setField name v r

/-- The fields of a table; other values have none. -/
def fields : Value → List (String × Value)
  | table fs => fs
  | _ => []

/-- The value of a name in a table. -/
def field? (v : Value) (name : String) : Option Value := v.fields.lookup name

/-- What a table is laid over: tables are kept, everything else gives way to an empty table, but
only if there is something to lay over it. -/
def base (old : Value) (isEmpty : Bool) : Value :=
  match old, isEmpty with
  | table fs, _ => table fs
  | nil, _ => table []
  | v, true => v
  | _, false => table []

mutual

/-- A value laid over another one: a table is merged into a table, every other value replaces what
was there. -/
def merge (old : Value) : Value → Value
  | table fs => mergeFields (base old fs.isEmpty) fs
  | v => v

/-- Fields laid over a table one after another. -/
def mergeFields (old : Value) : List (String × Value) → Value
  | [] => old
  | (n, v) :: r =>
    mergeFields (table (setField n (merge ((old.field? n).getD nil) v) old.fields)) r

end

end Value

end Crontab
