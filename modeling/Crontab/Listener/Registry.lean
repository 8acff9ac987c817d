import Crontab.Task

/-!
# Listeners

Listeners are told of the start and the outcome of every execution.  A listener may be registered
several times, and may change the list of listeners while it is being told something.

* `Registry.add`, `Registry.remove` : the list of listeners in order of registration.
* `notify` : one round of notification, to the listeners registered when it begins.
* A listener's panic ends the round.
-/

set_option autoImplicit false

namespace Crontab

/-- The registered listeners, in order of registration. -/
structure Registry (ι : Type) where
  listeners : List ι
deriving DecidableEq, Repr

namespace Registry

variable {ι : Type}

/-- The registry without listeners. -/
def empty : Registry ι := ⟨[]⟩

/-- Registers a listener once more. -/
def add (r : Registry ι) (l : ι) : Registry ι := ⟨r.listeners ++ [l]⟩

/-- The number of registrations. -/
def size (r : Registry ι) : Nat := r.listeners.length

variable [DecidableEq ι]

/-- Whether a listener is registered. -/
def contains (r : Registry ι) (l : ι) : Bool := r.listeners.contains l

/-- Takes out every registration of a listener. -/
def remove (r : Registry ι) (l : ι) : Registry ι := ⟨r.listeners.filter (· ≠ l)⟩

end Registry

/-- A change that a listener or a task makes to the registry. -/
inductive RegistryChange (ι : Type) where
  | add (l : ι)
  | remove (l : ι)
deriving DecidableEq, Repr

/-- The registry after a change. -/
def Registry.apply {ι : Type} [DecidableEq ι] (r : Registry ι) : RegistryChange ι → Registry ι
  | .add l => r.add l
  | .remove l => r.remove l

/-- The registry after changes in order. -/
def Registry.applyAll {ι : Type} [DecidableEq ι] (r : Registry ι)
    (changes : List (RegistryChange ι)) : Registry ι :=
  changes.foldl Registry.apply r

/-- What a listener is told about an execution. -/
inductive Notice where
  | started
  | succeeded
  | failed (error : TaskError)
deriving DecidableEq, Repr

/-- What a listener does when it is told something: it changes the registry, goes over to another
state of the listeners' world, and may end in a panic. -/
structure Reaction (ι σ : Type) where
  changes : List (RegistryChange ι)
  state : σ
  panic : Option Payload
deriving DecidableEq, Repr

/-- How listeners react. -/
abbrev Behaviour (ι σ : Type) := σ → ι → TaskId → Notice → Reaction ι σ

/-- One notification of one listener. -/
structure Call (ι : Type) where
  listener : ι
  task : TaskId
  notice : Notice
deriving DecidableEq, Repr

/-- A round of notification: the calls made, in order, and what it leaves behind. -/
structure Round (ι σ : Type) where
  calls : List (Call ι)
  registry : Registry ι
  state : σ
  panic : Option Payload
deriving DecidableEq, Repr

section

variable {ι σ : Type} [DecidableEq ι]

/-- Notifies the listeners of a list one after another, up to the first panic. -/
def notifyEach (b : Behaviour ι σ) (task : TaskId) (notice : Notice) :
    List ι → Registry ι → σ → Round ι σ
  | [], registry, state => ⟨[], registry, state, none⟩
  | l :: rest, registry, state =>
    let reaction := b state l task notice
    let registry := registry.applyAll reaction.changes
    match reaction.panic with
    | some p => ⟨[⟨l, task, notice⟩], registry, reaction.state, some p⟩
    | none =>
      let round := notifyEach b task notice rest registry reaction.state
      { round with calls := ⟨l, task, notice⟩ :: round.calls }

/-- A round of notification, to the listeners registered when it begins. -/
def notify (b : Behaviour ι σ) (task : TaskId) (notice : Notice) (registry : Registry ι)
    (state : σ) : Round ι σ :=
  notifyEach b task notice registry.listeners registry state

end

end Crontab
