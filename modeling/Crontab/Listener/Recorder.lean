import Crontab.Listener.Registry

/-!
# Recording listeners

Listeners for watching executions.  All but the silent ones write a line for each notification;
some also panic, leave the registry or bring another recorder along.

* `Recorder.behaviour` : how they react.
* `Recorder.line?` : the line written for a notification.
-/

set_option autoImplicit false

namespace Crontab

/-- What a recording listener does besides writing a line. -/
inductive RecorderKind where
  | plain
  | silent
  | panicOnStart
  | panicOnSuccess
  | panicOnFailure
  | removeSelf
  | addOther
deriving DecidableEq, Repr

/-- A recording listener: known by name, or the one that a listener of a name brought along. -/
inductive Recorder where
  | named (name : String)
  | companion (owner : String)
deriving DecidableEq, Repr

/-- The recording listeners in use: the kind of each name, and the names that have reacted
before. -/
structure RecorderCast where
  kinds : List (String × RecorderKind)
  seen : List String
deriving DecidableEq, Repr

namespace RecorderCast

/-- No listeners. -/
def empty : RecorderCast := ⟨[], []⟩

/-- Makes the listener of a name unless there is one. -/
def introduce (c : RecorderCast) (name : String) (kind : RecorderKind) : RecorderCast :=
  match c.kinds.lookup name with
  | some _ => c
  | none => { c with kinds := c.kinds ++ [(name, kind)] }

/-- The kind of the listener of a name. -/
def kindOf (c : RecorderCast) (name : String) : RecorderKind :=
  (c.kinds.lookup name).getD .plain

end RecorderCast

namespace Recorder

/-- The name under which a listener writes. -/
def name : Recorder → String
  | named n => n
  | companion owner => owner ++ "+"

/-- Whether a listener of a kind panics on a notice. -/
def panics : RecorderKind → Notice → Bool
  | .panicOnStart, .started => true
  | .panicOnSuccess, .succeeded => true
  | .panicOnFailure, .failed _ => true
  | _, _ => false

/-- How recording listeners react: a listener leaves the registry, or brings its companion, the
first time that it is told anything. -/
def behaviour : Behaviour Recorder RecorderCast := fun cast l _ notice =>
  match l with
  | .companion _ => ⟨[], cast, none⟩
  | .named n =>
    let kind := cast.kindOf n
    let first := !cast.seen.contains n
    let after := if first then { cast with seen := n :: cast.seen } else cast
    let changes : List (RegistryChange Recorder) := match kind with
      | .removeSelf => if first then [.remove l] else []
      | .addOther => if first then [.add (.companion n)] else []
      | _ => []
    ⟨changes, after, if panics kind notice then some (.text ("listener " ++ n)) else none⟩

/-- The line that is written for a notification. -/
def line? (cast : RecorderCast) (c : Call Recorder) : Option String :=
  let silent : Bool := match c.listener with
    | .named n => cast.kindOf n == .silent
    | .companion _ => false
  if silent then none
  else some <| c.listener.name ++ match c.notice with
    | .started => " start " ++ c.task.text
    | .succeeded => " ok " ++ c.task.text
    | .failed e => " failed " ++ c.task.text ++ ": " ++ e.message

end Recorder

end Crontab
