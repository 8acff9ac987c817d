import Crontab.Attempt
import Crontab.Table

/-!
# Task tables in columns

A task table is kept in three columns, for the ids, the patterns and the tasks.  What stands at one
place of the columns belongs to one task.

* `Columns.add`, `Columns.remove`, `Columns.updatePattern`, `Columns.clear` : changes, column by
  column.
* `Columns.pattern?`, `Columns.task?`, `Columns.ids` : questions.
* `Columns.due` : the tasks due at an instant.
* `Columns.toTable` : the tasks with what belongs to them.
-/

set_option autoImplicit false

namespace Crontab

/-- The scheduled tasks in order of insertion, in columns. -/
structure Columns (τ : Type) where
  ids : List TaskId
  patterns : List Pattern
  tasks : List τ
deriving DecidableEq, Repr

namespace Columns

variable {τ : Type}

/-- The columns without tasks. -/
def empty : Columns τ := ⟨[], [], []⟩

/-- The entries that the columns hold, read off place by place. -/
def toTable (c : Columns τ) : Table τ :=
  ⟨List.zipWith (fun (id, pattern) task => ⟨id, pattern, task⟩) (c.ids.zip c.patterns) c.tasks⟩

/-- The columns of a table. -/
def ofTable (t : Table τ) : Columns τ :=
  ⟨t.entries.map (·.id), t.entries.map (·.pattern), t.entries.map (·.task)⟩

/-- The place of an id. -/
def place? (c : Columns τ) (id : TaskId) : Option Nat := c.ids.findIdx? (· == id)

/-- Whether an id is taken. -/
def contains (c : Columns τ) (id : TaskId) : Bool := (c.place? id).isSome

/-- The number of tasks. -/
def size (c : Columns τ) : Nat := c.ids.length

/-- Whether there is no task. -/
def isEmpty (c : Columns τ) : Bool := c.ids.isEmpty

/-- The pattern of an id. -/
def pattern? (c : Columns τ) (id : TaskId) : Option Pattern :=
  (c.place? id).bind fun i => c.patterns[i]?

/-- The task of an id. -/
def task? (c : Columns τ) (id : TaskId) : Option τ :=
  (c.place? id).bind fun i => c.tasks[i]?

/-- Appends a task under an id that is not taken. -/
def add (id : TaskId) (pattern : Pattern) (task : τ) : Attempt TableError (Columns τ) Unit := do
  if ((← get).place? id).isSome then throw (.duplicateId id)
  modify fun c => { c with ids := c.ids ++ [id] }
  modify fun c => { c with patterns := c.patterns ++ [pattern] }
  modify fun c => { c with tasks := c.tasks ++ [task] }

/-- Removes the task of an id. -/
def remove (id : TaskId) : Attempt TableError (Columns τ) Unit := do
  match (← get).place? id with
  | none => throw (.taskNotFound id)
  | some i =>
    modify fun c => { c with ids := c.ids.eraseIdx i }
    modify fun c => { c with patterns := c.patterns.eraseIdx i }
    modify fun c => { c with tasks := c.tasks.eraseIdx i }

/-- Gives the task of an id another pattern; it keeps its place. -/
def updatePattern (id : TaskId) (pattern : Pattern) : Attempt TableError (Columns τ) Unit := do
  match (← get).place? id with
  | none => throw (.taskNotFound id)
  | some i => modify fun c => { c with patterns := c.patterns.set i pattern }

/-- Removes all tasks. -/
def clear : Attempt TableError (Columns τ) Unit := do
  modify fun c => { c with ids := [] }
  modify fun c => { c with patterns := [] }
  modify fun c => { c with tasks := [] }

/-- The id and the task at a place. -/
def taskAt? (c : Columns τ) (i : Nat) : Option (TaskId × τ) :=
  match c.ids[i]?, c.tasks[i]? with
  | some id, some task => some (id, task)
  | _, _ => none

/-- The tasks due at an instant, in order of insertion.  The instant is read off the zone's clocks
once for all patterns. -/
def due (c : Columns τ) (zone : Zone) (millis : Int) (matchSecond : Bool) : List (TaskId × τ) :=
  match zone.moment? millis with
  | none => []
  | some m =>
    (c.patterns.zipIdx.filter fun r => r.1.accepts m matchSecond).filterMap fun r => c.taskAt? r.2

/-! ## What the changes do -/

theorem run_add (c : Columns τ) (id : TaskId) (pattern : Pattern) (task : τ) :
    (add id pattern task).run c =
      if c.contains id then .error (.duplicateId id) c
      else .ok () ⟨c.ids ++ [id], c.patterns ++ [pattern], c.tasks ++ [task]⟩ := by
  simp only [add, contains, EStateM.run_bind, EStateM.run_get]
  split <;> simp_all

theorem run_remove (c : Columns τ) (id : TaskId) :
    (remove id).run c = match c.place? id with
      | none => .error (.taskNotFound id) c
      | some i => .ok () ⟨c.ids.eraseIdx i, c.patterns.eraseIdx i, c.tasks.eraseIdx i⟩ := by
  simp only [remove, EStateM.run_bind, EStateM.run_get]
  cases c.place? id <;> simp

theorem run_updatePattern (c : Columns τ) (id : TaskId) (pattern : Pattern) :
    (updatePattern id pattern).run c = match c.place? id with
      | none => .error (.taskNotFound id) c
      | some i => .ok () ⟨c.ids, c.patterns.set i pattern, c.tasks⟩ := by
  simp only [updatePattern, EStateM.run_bind, EStateM.run_get]
  cases c.place? id <;> simp

theorem run_clear (c : Columns τ) : clear.run c = .ok () empty := rfl

@[simp] theorem result_clear (c : Columns τ) : clear.result c = .ok () := rfl

/-! ## Refused changes -/

theorem allOrNothing_add (id : TaskId) (pattern : Pattern) (task : τ) :
    Attempt.AllOrNothing (add id pattern task) := by
  refine .of_run fun c e t h => ?_
  rw [run_add] at h
  split at h <;> cases h
  rfl

theorem allOrNothing_remove (id : TaskId) :
    (remove id : Attempt TableError (Columns τ) Unit).AllOrNothing := by
  refine .of_run fun c e t h => ?_
  rw [run_remove] at h
  split at h <;> cases h
  rfl

theorem allOrNothing_updatePattern (id : TaskId) (pattern : Pattern) :
    (updatePattern id pattern : Attempt TableError (Columns τ) Unit).AllOrNothing := by
  refine .of_run fun c e t h => ?_
  rw [run_updatePattern] at h
  split at h <;> cases h
  rfl

end Columns

end Crontab
