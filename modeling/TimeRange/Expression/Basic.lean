import TimeRange.Calendar.Date
import TimeRange.Calendar.TimeUnit
import TimeRange.Zone.Catalogue

/-!
# Time range expressions

A time range expression names the start and the end of a range by two anchors,
such as `-7d` or `now`. It may say how its running ends are rounded (`:d` or
`:|d|`), and from where it is seen: as of an anchor, and on the clocks of a
zone (`@-1W{Europe/Paris}`).
-/

namespace TimeRange

open Calendar

/-- A signed number of units, like `-7d`. Without a count it only selects a unit. -/
structure Grain where
  count? : Option Int
  unit : TimeUnit
  deriving DecidableEq, Repr

/-- What an anchor refers to, before it is moved or rounded. -/
inductive Base where
  /-- The present moved by a grain and rounded down to its unit. -/
  | grain (grain : Grain)
  /-- The midnight that begins a date. -/
  | date (date : Date)
  | dateTime (date : Date) (clock : ClockTime)
  | now
  /-- The last instant of the data. -/
  | latest
  /-- The first instant of the data. -/
  | earliest
  deriving DecidableEq, Repr

/-- A point in time: a base, a further grain by which it is moved, and a unit to which it is rounded down. -/
structure Anchor where
  base : Base
  move? : Option Grain
  truncation? : Option TimeUnit
  deriving DecidableEq, Repr

/-- How `now` and `latest` are rounded where they bound a range. -/
inductive Rounding where
  /-- Up, so that the bucket that is still filling is included. -/
  | running (grain : Grain)
  /-- Down, so that only complete buckets remain. -/
  | complete (grain : Grain)
  deriving DecidableEq, Repr

/-- Where an expression is seen from: as of an anchor, and on the clocks of a zone. Each may be absent. -/
structure Viewpoint where
  asOf? : Option Anchor
  zone? : Option NamedZone
  deriving DecidableEq, Repr

structure Expression where
  start : Anchor
  stop : Anchor
  rounding? : Option Rounding
  viewpoint? : Option Viewpoint
  /-- Whether it was read in the notation of the grammar, and not in an older one. -/
  grammatical : Bool
  deriving DecidableEq, Repr

namespace Anchor

def ofBase (base : Base) : Anchor :=
  ⟨base, none, none⟩

def now : Anchor :=
  ofBase .now

end Anchor

namespace Rounding

def unit : Rounding → TimeUnit
  | .running grain => grain.unit
  | .complete grain => grain.unit

def isComplete : Rounding → Bool
  | .running _ => false
  | .complete _ => true

end Rounding

namespace Expression

/-- The expression, as one that was read in the notation of the grammar. -/
def marked (expression : Expression) : Expression :=
  { expression with grammatical := true }

def roundingUnit? (expression : Expression) : Option TimeUnit :=
  expression.rounding?.map Rounding.unit

def isComplete (expression : Expression) : Bool :=
  expression.rounding?.any Rounding.isComplete

def asOf? (expression : Expression) : Option Anchor :=
  expression.viewpoint?.bind Viewpoint.asOf?

/-- The zone on whose clocks the expression is resolved: Universal Time, unless it names another. -/
def zone (expression : Expression) : NamedZone :=
  (expression.viewpoint?.bind Viewpoint.zone?).getD .utc

end Expression

end TimeRange
