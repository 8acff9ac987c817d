import Crontab.Config.Convert
import Crontab.Config.Environment
import Crontab.Config.KeyPath

/-!
# Configurations

A configuration is a tree of values put together from entries, each a key path text with a value.
Later entries are laid over earlier ones.

* `Config.ofEntries` : a configuration from entries.
* `Config.get` : the value at a key path.
* `Config.string` : the same as a text.
-/

set_option autoImplicit false

namespace Crontab

/-- A configuration, whose root is a table. -/
structure Config where
  root : Value
deriving Repr, Inhabited

namespace Config

/-- The configuration without values. -/
def empty : Config := ⟨.table []⟩

/-- The configuration with an entry laid over it.  A text that is no key path is taken as the name
of one value at the root, where no path leads. -/
def insert (c : Config) (key : List Char) (v : Value) : Config :=
  match KeyPath.parse? key with
  | some p => ⟨p.put c.root v⟩
  | none => ⟨KeyPath.put ⟨String.ofList key, []⟩ c.root v⟩

/-- The configuration with entries laid over it in order. -/
def insertAll (c : Config) (entries : List (List Char × Value)) : Config :=
  entries.foldl (fun c e => c.insert e.1 e.2) c

/-- The configuration of a table, whose names are key paths. -/
def ofTable (fields : List (String × Value)) : Config :=
  empty.insertAll (fields.map fun f => (f.1.toList, f.2))

/-- The configuration with an environment laid over it. -/
def withEnvironment (c : Config) (environment : List Variable) : Except ConfigError Config :=
  match Environment.entries environment with
  | .error e => .error e
  | .ok entries => .ok (c.insertAll entries)

/-- The value at a key path. -/
def get (c : Config) (key : String) : Except ConfigError Value :=
  match KeyPath.parse? key.toList with
  | none => .error .malformedPath
  | some p =>
    match p.get? c.root with
    | some v => .ok v
    | none => .error (.notFound key)

/-- The text at a key path. -/
def string (c : Config) (key : String) : Except ConfigError String :=
  match c.get key with
  | .ok v => v.text
  | .error e => .error e

end Config

end Crontab
