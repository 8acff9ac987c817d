import Crontab.Matcher.Word
import Crontab.Pattern

/-!
# Patterns in columns

The matchers of a pattern are kept in six columns, one for each field, and what stands at one place
of the columns belongs to one sub-pattern.  The columns grow one after another while the tokens of a
sub-pattern are read.  Here this is computed in words of 64 bits, and a shift out of a word or a
place that a column does not have ends the computation.

* `PatternColumns.parse?` : the columns of a text, or the leftmost defect.
* `PatternColumns.accepts?` : the moments that the matchers at one of the places accept.
-/

set_option autoImplicit false

namespace Crontab

open Text

/-- What a computation reads, or why it refuses to, if it comes to its end. -/
abbrev Reading (α : Type) := ExceptT PatternDefect Option α

/-- The octets of a list in ascending order. -/
def octets (l : List Nat) : List Nat := (List.range 256).filter fun v => l.contains v

/-- The condition that a token puts on its field, from the set of all its values. -/
def Matcher.read? (f : Field) (token : List Char) : Reading Matcher :=
  if isWildcard token then return .always
  else match readItems f (piecesAt ',' token) with
    | .error e => throw (.field f e)
    | .ok items => ExceptT.lift (ofMembers? f (octets (items.flatMap (Item.members f))))

/-- A pattern in columns: its text, the conditions on each field, and how many sub-patterns there
are. -/
structure PatternColumns where
  text : String
  seconds : List Matcher
  minutes : List Matcher
  hours : List Matcher
  daysOfMonth : List Matcher
  months : List Matcher
  daysOfWeek : List Matcher
  size : Nat
deriving DecidableEq, Repr

namespace PatternColumns

/-- The column of a field. -/
def column (c : PatternColumns) : Field → List Matcher
  | .second => c.seconds
  | .minute => c.minutes
  | .hour => c.hours
  | .dayOfMonth => c.daysOfMonth
  | .month => c.months
  | .dayOfWeek => c.daysOfWeek

/-! ## Reading -/

/-- Columns without sub-patterns. -/
def empty (text : String) : PatternColumns := ⟨text, [], [], [], [], [], [], 0⟩

/-- A condition at the end of its field's column. -/
def push (c : PatternColumns) (f : Field) (x : Matcher) : PatternColumns :=
  match f with
  | .second => { c with seconds := c.seconds ++ [x] }
  | .minute => { c with minutes := c.minutes ++ [x] }
  | .hour => { c with hours := c.hours ++ [x] }
  | .dayOfMonth => { c with daysOfMonth := c.daysOfMonth ++ [x] }
  | .month => { c with months := c.months ++ [x] }
  | .dayOfWeek => { c with daysOfWeek := c.daysOfWeek ++ [x] }

/-- Reads a token into its field's column. -/
def readToken (c : PatternColumns) (f : Field) (token : List Char) : Reading PatternColumns := do
  return c.push f (← Matcher.read? f token)

/-- Reads the five tokens from the minute on; with the last one the sub-pattern counts. -/
def readFrom (c : PatternColumns) (minute hour day month week : List Char) :
    Reading PatternColumns := do
  let c ← c.readToken .minute minute
  let c ← c.readToken .hour hour
  let c ← c.readToken .dayOfMonth day
  let c ← c.readToken .month month
  let c ← c.readToken .dayOfWeek week
  return { c with size := c.size + 1 }

/-- Reads a sub-pattern from its tokens; `piece` is quoted when their number is wrong. -/
def readTokens (c : PatternColumns) (piece : List Char) :
    List (List Char) → Reading PatternColumns
  | [minute, hour, day, month, week] => (c.push .second .always).readFrom minute hour day month week
  | [second, minute, hour, day, month, week]
  | [second, minute, hour, day, month, week, _] => do
    let c ← c.readToken .second second
    c.readFrom minute hour day month week
  | tokens => throw (.fieldCount (String.ofList piece) tokens.length)

/-- Reads sub-patterns one after another; the first defect ends the reading. -/
def readAll (c : PatternColumns) (pieces : List (List Char)) : Reading PatternColumns :=
  pieces.foldlM (fun c piece => c.readTokens (trim piece) (words piece)) c

/-- Reads a pattern; a refusal carries the whole text as it was given. -/
def parse? (text : String) : Option (Except InvalidPattern PatternColumns) :=
  if trim text.toList = [] then some (.error ⟨text, .empty⟩)
  else do
    match ← (empty (String.ofList (trim text.toList))).readAll (piecesAt '|' text.toList) with
    | .error e => return .error ⟨text, e⟩
    | .ok c => return .ok c

/-! ## Acceptance -/

/-- Whether the conditions at one place hold, asked in the order of the fields until one does not;
the one on the second is asked only when `matchSecond` is set. -/
def acceptsAt? (c : PatternColumns) (m : Moment) (matchSecond : Bool) (i : Nat) : Option Bool := do
  if matchSecond then
    unless ← (← c.seconds[i]?).accepts? m.second do return false
  unless ← (← c.minutes[i]?).accepts? m.minute do return false
  unless ← (← c.hours[i]?).accepts? m.hour do return false
  unless ← (← c.daysOfMonth[i]?).acceptsDay? m.dayOfMonth m.month m.leapYear do return false
  unless ← (← c.months[i]?).accepts? m.month do return false
  (← c.daysOfWeek[i]?).accepts? m.dayOfWeek

/-- Whether the conditions hold at one of the places, asked until they do. -/
def accepts? (c : PatternColumns) (m : Moment) (matchSecond : Bool) : Option Bool :=
  (List.range c.size).anyM (c.acceptsAt? m matchSecond)

end PatternColumns

end Crontab
