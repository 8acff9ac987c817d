/-!
# The `scheduled` attribute

A function is marked as scheduled by an attribute with arguments `name = value`.

* `Attribute.expand` : the registration that a marked function gets, or the first complaint.  A
  function with a raw name has no registration: the name of its registrar would be no identifier.
* `Expansion.items` : what then stands in the program in place of the marked function.

Complaints about the function come before those about the arguments, which are looked at from left
to right; a missing pattern comes last.
-/

set_option autoImplicit false

namespace Crontab

/-- The value of an argument. -/
inductive ArgumentValue where
  | text (s : String)
  | bool (b : Bool)
  /-- A number, or an expression that is no literal. -/
  | other
deriving DecidableEq, Repr

/-- An argument of the attribute.  The name is missing when it is a path of several parts. -/
inductive Argument where
  | pair (name : Option String) (value : ArgumentValue)
  /-- A bare name, or a name with a list in parentheses. -/
  | bare
deriving DecidableEq, Repr

/-- What matters of a marked function. -/
structure MarkedFunction where
  name : String
  isAsync : Bool
  parameters : Nat
  generics : Nat
deriving DecidableEq, Repr

/-- A complaint about a marked function. -/
inductive AttributeError where
  | isAsync
  | hasParameters
  | isGeneric
  | notPair
  | notText (name : String)
  | notSwitch
  | unknown (name : String)
  | missingPattern
deriving DecidableEq, Repr

/-- The wording of a complaint. -/
def AttributeError.message : AttributeError → String
  | isAsync => "#[scheduled] functions run on the blocking pool and must not be async"
  | hasParameters => "#[scheduled] functions take no arguments"
  | isGeneric => "#[scheduled] functions cannot be generic"
  | notPair => "expected `name = value`"
  | notText name => "`" ++ name ++ "` must be a string"
  | notSwitch => "`enabled` must be a bool or string"
  | unknown name => "unknown argument `" ++ name ++ "`, expected cron, id or enabled"
  | missingPattern => "#[scheduled] requires a `cron = \"...\"` pattern"

/-- What the arguments say; later ones replace earlier ones. -/
structure AttributeArguments where
  pattern : Option String := none
  id : Option String := none
  enabled : Option String := none
deriving DecidableEq, Repr

/-- The registration of a marked function. -/
structure AttributeRegistration where
  id : String
  pattern : String
  enabled : String
  /-- The name of the function that registers it. -/
  registrar : String
deriving DecidableEq, Repr

/-- What becomes of a marked function. -/
inductive Expansion where
  | registered (r : AttributeRegistration)
  | refused (e : AttributeError)
  /-- The expansion broke down on a name that is no identifier. -/
  | aborted (registrar : String)
deriving DecidableEq, Repr

/-- A marked function as it stands in the program: what the attribute looks at, and all the rest. -/
structure MarkedItem (β : Type) where
  head : MarkedFunction
  rest : β
deriving DecidableEq, Repr

/-- An item in place of a marked function. -/
inductive EmittedItem (β : Type) where
  | function (f : MarkedItem β)
  /-- The function that registers the marked one, whose handler calls the function of a name. -/
  | registrar (r : AttributeRegistration) (handler : String)
deriving DecidableEq, Repr

/-- What stands in the program in place of a marked function. -/
def Expansion.items {β : Type} (f : MarkedItem β) : Expansion → List (EmittedItem β)
  | registered r => [.function f, .registrar r f.head.name]
  | refused _ | aborted _ => []

/-- The wording of a breakdown. -/
def Expansion.abortMessage (registrar : String) : String :=
  "\"" ++ registrar ++ "\" is not a valid Ident"

namespace Attribute

/-- What an argument adds to the ones before it. -/
def readArgument (a : AttributeArguments) : Argument → Except AttributeError AttributeArguments
  | .bare => .error .notPair
  | .pair name value =>
    if name = some "cron" then
      match value with
      | .text s => .ok { a with pattern := some s }
      | _ => .error (.notText "cron")
    else if name = some "id" then
      match value with
      | .text s => .ok { a with id := some s }
      | _ => .error (.notText "id")
    else if name = some "enabled" then
      match value with
      | .text s => .ok { a with enabled := some s }
      | .bool b => .ok { a with enabled := some (if b then "true" else "false") }
      | .other => .error .notSwitch
    else .error (.unknown (name.getD ""))

/-- What arguments say, from left to right. -/
def readArguments (a : AttributeArguments) :
    List Argument → Except AttributeError AttributeArguments
  | [] => .ok a
  | first :: rest =>
    match readArgument a first with
    | .error e => .error e
    | .ok b => readArguments b rest

/-- The id of a function without one: the path of its module and its name. -/
def defaultId (name : String) (path : String := "<module>") : String := path ++ "::" ++ name

/-- The name of the function that registers a marked function. -/
def registrar (name : String) : String := "__cronus_register_" ++ name

/-- Whether a name is written with the mark of raw identifiers. -/
def isRaw (name : String) : Bool := "r#".toList.isPrefixOf name.toList

/-- What becomes of a marked function in the module of a path. -/
def expand (arguments : List Argument) (f : MarkedFunction) (path : String := "<module>") :
    Expansion :=
  if f.isAsync then .refused .isAsync
  else if f.parameters ≠ 0 then .refused .hasParameters
  else if f.generics ≠ 0 then .refused .isGeneric
  else match readArguments {} arguments with
    | .error e => .refused e
    | .ok a =>
      match a.pattern with
      | none => .refused .missingPattern
      | some pattern =>
        if isRaw f.name then .aborted (registrar f.name)
        else .registered
          { id := a.id.getD (defaultId f.name path)
            pattern := pattern
            enabled := a.enabled.getD "true"
            registrar := registrar f.name }

end Attribute

end Crontab
