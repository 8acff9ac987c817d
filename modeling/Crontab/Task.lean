/-!
# Tasks and their outcomes

* `TaskId` : the name of a task; generated ids differ from all that callers choose.
* `Outcome` : how one execution of a task ended.
* `Outcome.error?` : the error that an outcome is reported with, none for success.
-/

set_option autoImplicit false

namespace Crontab

/-- The id of a task: chosen by the caller, or generated and unlike every other. -/
inductive TaskId where
  | named (name : String)
  | generated (serial : Nat)
deriving DecidableEq, Repr

/-- How an id is written. -/
def TaskId.text : TaskId → String
  | named name => name
  | generated serial => "gen-" ++ toString serial

/-- The error of a task. -/
inductive TaskError where
  | failed (message : String)
  | panicked (message : String)
  | other (message : String)
deriving DecidableEq, Repr

/-- The wording of a task's error. -/
def TaskError.message : TaskError → String
  | failed m => "Task failed: " ++ m
  | panicked m => "Task panicked: " ++ m
  | other m => m

/-- What a panic carries: a text, or something that is none. -/
inductive Payload where
  | text (message : String)
  | nonText
deriving DecidableEq, Repr

/-- The text that a panic is reported with. -/
def Payload.report : Payload → String
  | text m => m
  | nonText => "unknown panic"

/-- The text that a panic carries, empty if it carries none. -/
def Payload.message : Payload → String
  | text m => m
  | nonText => ""

/-- How an execution of a task ended. -/
inductive Outcome where
  | succeeded
  | failed (error : TaskError)
  | panicked (payload : Payload)
deriving DecidableEq, Repr

/-- The error that an outcome is reported with. -/
def Outcome.error? : Outcome → Option TaskError
  | succeeded => none
  | failed e => some e
  | panicked p => some (.panicked p.report)

end Crontab
