import Crontab.Config
import Crontab.Text.Split

/-!
# Placeholders

A text `${key}` stands for the text at a key path of a configuration, and `${key:default}` for that
text or else the default.  Every other text stands for itself.

* `Placeholder.inner?` : what stands between `${` and `}`.
* `Placeholder.resolve` : what a text stands for.
-/

set_option autoImplicit false

namespace Crontab.Placeholder

open Text

/-- What stands between `${` and a final `}`. -/
def inner? : List Char → Option (List Char)
  | '$' :: '\x7b' :: r =>
    match r.reverse with
    | '\x7d' :: i => some i.reverse
    | _ => none
  | _ => none

/-- What a text stands for, given the texts at key paths.  The answer is not looked at again. -/
def resolveWith (lookup : String → Except ConfigError String) (s : String) :
    Except ConfigError String :=
  match inner? s.toList with
  | none => .ok s
  | some inner =>
    match cut ':' inner with
    | some (key, default) =>
      match lookup (String.ofList key) with
      | .ok v => .ok v
      | .error _ => .ok (String.ofList default)
    | none => lookup (String.ofList inner)

/-- What a text stands for in a configuration. -/
def resolve (c : Config) (s : String) : Except ConfigError String := resolveWith c.string s

end Crontab.Placeholder
