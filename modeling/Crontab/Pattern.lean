import Crontab.Calendar.Moment
import Crontab.Field.Item
import Crontab.Matcher

/-!
# Patterns

A pattern is a `|`-separated list of sub-patterns; it accepts the moments that one of them accepts.
A sub-pattern is five, six or seven tokens set apart by blanks: an optional second, minute, hour,
day of month, month, day of week, and a seventh token without meaning.

* `Pattern.parse` : a pattern from text, or the leftmost defect together with the whole text.
* `SubPattern.accepts`, `Pattern.accepts` : the moments a pattern accepts, with or without a look at
  their second.
-/

set_option autoImplicit false

namespace Crontab

open Text

/-! ## Defects -/

/-- Why a text is no pattern. -/
inductive PatternDefect where
  | empty
  | fieldCount (piece : String) (count : Nat)
  | field (f : Field) (defect : FieldDefect)
deriving DecidableEq, Repr

/-- The wording of a defect. -/
def PatternDefect.reason : PatternDefect → String
  | empty => "pattern is empty"
  | fieldCount piece n =>
    "sub-pattern '" ++ piece ++ "' has " ++ toString n ++ " fields, expected 5, 6 or 7"
  | field f d => f.name ++ " field: " ++ d.reason f

/-- A refused text and what is wrong with it. -/
structure InvalidPattern where
  text : String
  defect : PatternDefect
deriving DecidableEq, Repr

/-- The wording of a refusal. -/
def InvalidPattern.message (e : InvalidPattern) : String :=
  "Invalid cron pattern '" ++ e.text ++ "': " ++ e.defect.reason

/-! ## Patterns and the moments they accept -/

/-- Conditions on all six fields. -/
structure SubPattern where
  second : Matcher
  minute : Matcher
  hour : Matcher
  dayOfMonth : Matcher
  month : Matcher
  dayOfWeek : Matcher
deriving DecidableEq, Repr

/-- Whether all conditions hold; the one on the second only when `matchSecond` is set. -/
def SubPattern.accepts (p : SubPattern) (m : Moment) (matchSecond : Bool) : Bool :=
  (!matchSecond || p.second.accepts m.second) &&
    p.minute.accepts m.minute &&
    p.hour.accepts m.hour &&
    p.dayOfMonth.acceptsDay m.dayOfMonth m.month m.leapYear &&
    p.month.accepts m.month &&
    p.dayOfWeek.accepts m.dayOfWeek

/-- A pattern: the text it was read from, without blanks at its ends, and its sub-patterns. -/
structure Pattern where
  text : String
  alternatives : List SubPattern
deriving DecidableEq, Repr

/-- Whether one of the sub-patterns accepts the moment. -/
def Pattern.accepts (p : Pattern) (m : Moment) (matchSecond : Bool) : Bool :=
  p.alternatives.any fun a => a.accepts m matchSecond

/-! ## Reading -/

/-- The condition that a token puts on its field. -/
def Matcher.read (f : Field) (token : List Char) : Except PatternDefect Matcher :=
  if isWildcard token then .ok .always
  else match readField f token with
    | .error e => .error (.field f e)
    | .ok set => .ok (.ofField f set)

/-- Reads the five tokens from the minute on, given the condition on the second. -/
def SubPattern.readFrom (second : Matcher) (minute hour day month week : List Char) :
    Except PatternDefect SubPattern := do
  let minute ← Matcher.read .minute minute
  let hour ← Matcher.read .hour hour
  let day ← Matcher.read .dayOfMonth day
  let month ← Matcher.read .month month
  let week ← Matcher.read .dayOfWeek week
  return ⟨second, minute, hour, day, month, week⟩

/-- Reads a sub-pattern from its tokens; `piece` is quoted when their number is wrong. -/
def SubPattern.ofTokens (piece : List Char) : List (List Char) → Except PatternDefect SubPattern
  | [minute, hour, day, month, week] => readFrom .always minute hour day month week
  | [second, minute, hour, day, month, week]
  | [second, minute, hour, day, month, week, _] => do
    let second ← Matcher.read .second second
    readFrom second minute hour day month week
  | tokens => .error (.fieldCount (String.ofList piece) tokens.length)

/-- Reads a sub-pattern. -/
def SubPattern.read (piece : List Char) : Except PatternDefect SubPattern :=
  ofTokens (trim piece) (words piece)

/-- Reads sub-patterns one after another; the first defect ends the reading. -/
def SubPattern.readAll : List (List Char) → Except PatternDefect (List SubPattern)
  | [] => .ok []
  | piece :: rest => do
    let first ← read piece
    let others ← readAll rest
    return first :: others

namespace Pattern

/-- Reads a pattern from the characters of a text. -/
def read (s : List Char) : Except PatternDefect Pattern :=
  if trim s = [] then .error .empty
  else match SubPattern.readAll (piecesAt '|' s) with
    | .error e => .error e
    | .ok alternatives => .ok ⟨String.ofList (trim s), alternatives⟩

/-- Reads a pattern; a refusal carries the whole text as it was given. -/
def parse (text : String) : Except InvalidPattern Pattern :=
  match read text.toList with
  | .error e => .error ⟨text, e⟩
  | .ok p => .ok p

/-- The number of sub-patterns. -/
def size (p : Pattern) : Nat := p.alternatives.length

/-- A pattern is shown as its text. -/
instance : ToString Pattern := ⟨text⟩

end Pattern

/-- Reads the text of one field on its own. -/
def Field.parse (f : Field) (text : String) : Except InvalidPattern ValueSet :=
  match readField f text.toList with
  | .error e => .error ⟨text, .field f e⟩
  | .ok set => .ok set

end Crontab
