/-!
# Offsets of time zones

How far the clocks of a place are ahead of UTC, as a list of changes, and which places have a name.

* `Offsets.offsetAt` : the offset that holds at an instant.
* `TimeZones` : the zone of the machine and the zones that are known by name.  Both come from
  outside, so nothing here fixes which names there are.
-/

set_option autoImplicit false

namespace Crontab

/-- From an instant on, in seconds since 1970-01-01 00:00 UTC, clocks are ahead of UTC by `offset`
seconds. -/
structure OffsetChange where
  start : Int
  offset : Int
deriving DecidableEq, Repr

/-- The offset of a place before its first change, and its changes in order of time. -/
structure Offsets where
  initial : Int
  changes : List OffsetChange
deriving DecidableEq, Repr

namespace Offsets

/-- The offset of a place that never changes it. -/
def fixed (offset : Int) : Offsets := ⟨offset, []⟩

/-- Changes written as pairs of a start and an offset. -/
def ofPairs (initial : Int) (pairs : List (Int × Int)) : Offsets :=
  ⟨initial, pairs.map fun q => ⟨q.1, q.2⟩⟩

/-- The offset of the last of some changes that has begun, or else `current`. -/
def after (current seconds : Int) : List OffsetChange → Int
  | [] => current
  | c :: r => if c.start ≤ seconds then after c.offset seconds r else current

/-- The offset at an instant given in seconds. -/
def offsetAt (o : Offsets) (seconds : Int) : Int := after o.initial seconds o.changes

/-- The offset that holds is the first one or that of a change. -/
theorem offsetAt_mem (o : Offsets) (seconds : Int) :
    o.offsetAt seconds ∈ o.initial :: o.changes.map (·.offset) := by
  obtain ⟨current, changes⟩ := o
  simp only [offsetAt]
  induction changes generalizing current with
  | nil => exact List.mem_singleton_self current
  | cons c r ih =>
    unfold after
    split
    · exact List.mem_cons_of_mem _ (ih c.offset)
    · exact List.mem_cons_self

end Offsets

/-- The time zones that a program finds: the machine's own, and those of a tz database, by their
case-sensitive names. -/
structure TimeZones where
  machine : Offsets
  named? : String → Option Offsets

/-- The time zones of a machine and a list of names; the first zone of a name counts. -/
def TimeZones.ofList (machine : Offsets) (zones : List (String × Offsets)) : TimeZones :=
  ⟨machine, fun name => zones.lookup name⟩

end Crontab
