import Crontab.Calendar.Moment
import Crontab.Pattern
import Crontab.Text.Blank
import Crontab.Zone.Offsets

/-!
# Time zones

A zone turns an instant, in milliseconds since 1970-01-01 00:00 UTC, into the moment that its clocks
show.

* `Zone.parse` : the zone of a name, among the time zones there are.
* `Zone.moment?` : the reading of the zone's clocks at an instant, if the instant is one of those
  for which dates are kept.
* `Pattern.matchesAt` : whether a pattern accepts an instant in a zone.
-/

set_option autoImplicit false

namespace Crontab

open Text

/-- A time zone, with the offsets of its clocks: the machine's own, or one known by name. -/
inductive Zone where
  | localTime (offsets : Offsets)
  | named (name : String) (offsets : Offsets)
deriving DecidableEq, Repr

/-- A name that no zone has. -/
structure InvalidTimeZone where
  name : String
deriving DecidableEq, Repr

/-- The wording of an unknown name. -/
def InvalidTimeZone.message (e : InvalidTimeZone) : String := "Invalid time zone: " ++ e.name

namespace Zone

/-- The zone of a name without blanks at its ends.  Only `local` may be written in any letter
case. -/
def ofName (zones : TimeZones) (s : List Char) : Except InvalidTimeZone Zone :=
  if s = [] ∨ sameLetters s "local".toList then .ok (.localTime zones.machine)
  else
    let name := String.ofList s
    match zones.named? name with
    | some offsets => .ok (.named name offsets)
    | none => .error ⟨name⟩

/-- The zone of a name; blanks around it do not matter, and no name is the local zone. -/
def parse (zones : TimeZones) (text : String) : Except InvalidTimeZone Zone :=
  ofName zones (trim text.toList)

/-- The name under which the zone is shown. -/
def name : Zone → String
  | localTime _ => "Local"
  | named name _ => name

/-- The offsets of the zone's clocks. -/
def offsets : Zone → Offsets
  | localTime offsets => offsets
  | named _ offsets => offsets

/-- The seconds by which the zone's clocks are ahead of UTC at an instant given in seconds. -/
def offsetAt (z : Zone) (seconds : Int) : Int := z.offsets.offsetAt seconds

/-- The first and last millisecond for which dates are kept. -/
def firstInstant : Int := -8334601228800000

@[inherit_doc firstInstant]
def lastInstant : Int := 8210266876799999

/-- Whether a date can be given for an instant. -/
def representable (millis : Int) : Bool := decide (firstInstant ≤ millis ∧ millis ≤ lastInstant)

/-- The reading of the zone's clocks at an instant; milliseconds are rounded down to seconds. -/
def moment? (z : Zone) (millis : Int) : Option Moment :=
  if representable millis then
    let seconds := millis / 1000
    some (Moment.ofSeconds (seconds + z.offsetAt seconds))
  else none

end Zone

namespace Pattern

/-- Whether the pattern accepts an instant; one without a date is never accepted. -/
def matchesAt (p : Pattern) (z : Zone) (millis : Int) (matchSecond : Bool) : Bool :=
  match z.moment? millis with
  | some m => p.accepts m matchSecond
  | none => false

/-- The instants at which a pattern is due among `count` ones that begin at `start` and lie `step`
apart. -/
def dueInstants (p : Pattern) (z : Zone) (matchSecond : Bool) (start step : Int) (count : Nat) :
    List Int :=
  ((List.range count).map fun n : Nat => start + n * step).filter fun t =>
    p.matchesAt z t matchSecond

end Pattern

end Crontab
