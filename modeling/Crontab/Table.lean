import Crontab.Task
import Crontab.Zone

/-!
# The task table

The scheduled tasks in order of insertion, each with an id of its own and a pattern.

* `Table.add`, `Table.remove`, `Table.updatePattern`, `Table.clear` : changes.
* `Table.pattern?`, `Table.task?`, `Table.ids` : questions.
* `Table.due` : the tasks due at an instant, in order of insertion.
-/

set_option autoImplicit false

namespace Crontab

/-- A scheduled task. -/
structure Entry (τ : Type) where
  id : TaskId
  pattern : Pattern
  task : τ
deriving DecidableEq, Repr

/-- The scheduled tasks, in order of insertion. -/
structure Table (τ : Type) where
  entries : List (Entry τ)
deriving DecidableEq, Repr

/-- Why a table refuses a change. -/
inductive TableError where
  | duplicateId (id : TaskId)
  | taskNotFound (id : TaskId)
deriving DecidableEq, Repr

/-- The wording of a refusal. -/
def TableError.message : TableError → String
  | duplicateId id => "Duplicate task id: " ++ id.text
  | taskNotFound id => "Task not found: " ++ id.text

namespace Table

variable {τ : Type}

/-- The table without tasks. -/
def empty : Table τ := ⟨[]⟩

/-- The ids in order of insertion. -/
def ids (t : Table τ) : List TaskId := t.entries.map (·.id)

/-- The number of tasks. -/
def size (t : Table τ) : Nat := t.entries.length

/-- Whether an id is taken. -/
def contains (t : Table τ) (id : TaskId) : Bool := t.ids.contains id

/-- The entry of an id. -/
def find? (t : Table τ) (id : TaskId) : Option (Entry τ) := t.entries.find? fun e => e.id == id

/-- The pattern of an id. -/
def pattern? (t : Table τ) (id : TaskId) : Option Pattern := (t.find? id).map (·.pattern)

/-- The task of an id. -/
def task? (t : Table τ) (id : TaskId) : Option τ := (t.find? id).map (·.task)

/-- Appends a task under an id that is not taken. -/
def add (t : Table τ) (id : TaskId) (pattern : Pattern) (task : τ) :
    Except TableError (Table τ) :=
  if t.contains id then .error (.duplicateId id) else .ok ⟨t.entries ++ [⟨id, pattern, task⟩]⟩

/-- Removes the task of an id. -/
def remove (t : Table τ) (id : TaskId) : Except TableError (Table τ) :=
  if t.contains id then .ok ⟨t.entries.filter (·.id ≠ id)⟩ else .error (.taskNotFound id)

/-- Gives the task of an id another pattern; it keeps its place. -/
def updatePattern (t : Table τ) (id : TaskId) (pattern : Pattern) :
    Except TableError (Table τ) :=
  if t.contains id then
    .ok ⟨t.entries.map fun e => if e.id = id then { e with pattern } else e⟩
  else .error (.taskNotFound id)

/-- Removes all tasks. -/
def clear (_ : Table τ) : Table τ := empty

/-- The tasks due at an instant, in order of insertion.  The instant is read off the zone's clocks
once for all of them. -/
def due (t : Table τ) (zone : Zone) (millis : Int) (matchSecond : Bool) : List (TaskId × τ) :=
  match zone.moment? millis with
  | none => []
  | some m =>
    (t.entries.filter fun e => e.pattern.accepts m matchSecond).map fun e => (e.id, e.task)

end Table

end Crontab
