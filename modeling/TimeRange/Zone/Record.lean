import TimeRange.Zone.YearlyRule

/-!
# Named zones

A named zone is a zone under its name in the zone database. Its history is
given as a record: pairs of an instant, in seconds since the start of 1970,
and the offset from then on, followed by a yearly rule where there is one.
-/

namespace TimeRange

structure NamedZone extends Zone where
  name : String
  deriving DecidableEq, Repr

namespace NamedZone

def before (seconds : Int) : Int :=
  -seconds

def west (seconds : Int) : Int :=
  -seconds

/-- The transitions of a record of instants and offsets. -/
def recorded (record : List (Int × Int)) : List Transition :=
  record.map fun entry => ⟨entry.1, entry.2⟩

def ofRecord (name : String) (initialOffset : Int) (record : List (Int × Int)) : NamedZone where
  name := name
  initialOffset := initialOffset
  transitions := recorded record

/-- A zone that changes by a yearly rule after the changes on record. -/
def ofRecordAndRule (name : String) (initialOffset : Int) (record : List (Int × Int))
    (rule : YearlyRule) : NamedZone where
  name := name
  initialOffset := initialOffset
  transitions := recorded record ++ rule.transitions

end NamedZone

end TimeRange
