/-!
# Calendar units

The eight units in which a time range counts, the letters that spell them,
and how each one is measured. Every unit is a multiple of one of three
measures: an exact span of nanoseconds, a calendar day, or a calendar month.
The arithmetic of the other modules is written once per measure.
-/

namespace TimeRange

inductive TimeUnit where
  | second
  | minute
  | hour
  | day
  | week
  | month
  | quarter
  | year
  deriving DecidableEq, Repr

/-- What one step of a unit amounts to. -/
inductive Measure where
  /-- A fixed number of nanoseconds, whatever the clocks on the wall do. -/
  | exact (nanoseconds : Int)
  /-- A number of calendar days, each from midnight to midnight on the wall. -/
  | days (count : Int)
  /-- A number of calendar months. -/
  | months (count : Int)
  deriving DecidableEq, Repr

namespace TimeUnit

def letter : TimeUnit → Char
  | .second => 's'
  | .minute => 'm'
  | .hour => 'h'
  | .day => 'd'
  | .week => 'W'
  | .month => 'M'
  | .quarter => 'Q'
  | .year => 'Y'

/-- The unit that a letter spells. A day has two letters, `d` and `D`. -/
def ofLetter? : Char → Option TimeUnit
  | 's' => some .second
  | 'm' => some .minute
  | 'h' => some .hour
  | 'd' => some .day
  | 'D' => some .day
  | 'W' => some .week
  | 'M' => some .month
  | 'Q' => some .quarter
  | 'Y' => some .year
  | _ => none

theorem ofLetter?_letter (unit : TimeUnit) : ofLetter? unit.letter = some unit := by
  cases unit <;> rfl

def ofText? (text : String) : Option TimeUnit :=
  match text.toList with
  | [single] => ofLetter? single
  | _ => none

def name : TimeUnit → String
  | .second => "Second"
  | .minute => "Minute"
  | .hour => "Hour"
  | .day => "Day"
  | .week => "Week"
  | .month => "Month"
  | .quarter => "Quarter"
  | .year => "Year"

/-- How the unit is measured. Quarters and years are counted in months. -/
def measure : TimeUnit → Measure
  | .second => .exact 1000000000
  | .minute => .exact 60000000000
  | .hour => .exact 3600000000000
  | .day => .days 1
  | .week => .days 7
  | .month => .months 1
  | .quarter => .months 3
  | .year => .months 12

end TimeUnit

end TimeRange
