import TimeRange.Calendar.Date

/-!
# Instants and wall-clock times

An instant is a point of Universal Time and a wall-clock time is what the
clocks of some place show. Both are counted in nanoseconds, an instant from
the start of 1970 in Universal Time and a wall-clock time from the start of
1970 on the wall, and both lie in the years that the calendar covers.
Arithmetic is done on the counts without bound, and `ofNanoseconds?` refuses a
result that has left the calendar.
-/

namespace TimeRange.Calendar

def secondLength : Int := 1000000000

def dayLength : Int := 86400000000000

/--
The calendar covers the years -262143 to 262142: the counts from the midnight
that begins the first of them to the midnight that ends the last.
-/
def InCalendar (nanoseconds : Int) : Prop :=
  -8334601228800000000000 ≤ nanoseconds ∧ nanoseconds < 8210266876800000000000

instance (nanoseconds : Int) : Decidable (InCalendar nanoseconds) :=
  inferInstanceAs (Decidable (_ ∧ _))

/-- A point of Universal Time. -/
structure Instant where
  nanoseconds : Int
  inCalendar : InCalendar nanoseconds
  deriving DecidableEq, Repr

/-- A reading of a date and a time of day off a wall clock. -/
structure WallTime where
  nanoseconds : Int
  inCalendar : InCalendar nanoseconds
  deriving DecidableEq, Repr

namespace Instant

def epoch : Instant := ⟨0, by decide⟩

instance : Inhabited Instant := ⟨epoch⟩

def first : Instant := ⟨-8334601228800000000000, by decide⟩

def last : Instant := ⟨8210266876799999999999, by decide⟩

/-- The instant at a count of nanoseconds, if the calendar covers it. -/
def ofNanoseconds? (nanoseconds : Int) : Option Instant :=
  if inCalendar : InCalendar nanoseconds then some ⟨nanoseconds, inCalendar⟩ else none

theorem ofNanoseconds?_eq_some_iff {nanoseconds : Int} {instant : Instant} :
    ofNanoseconds? nanoseconds = some instant ↔ instant.nanoseconds = nanoseconds := by
  unfold ofNanoseconds?
  split
  · constructor
    · intro same
      cases same
      rfl
    · intro same
      cases same
      rfl
  · rename_i outside
    constructor
    · intro same
      cases same
    · intro same
      exact absurd (same ▸ instant.inCalendar) outside

theorem ofNanoseconds?_eq_none_iff {nanoseconds : Int} :
    ofNanoseconds? nanoseconds = none ↔ ¬ InCalendar nanoseconds := by
  unfold ofNanoseconds?
  split
  · rename_i inside
    exact ⟨(fun absent => nomatch absent), fun outside => absurd inside outside⟩
  · rename_i outside
    exact ⟨fun _ => outside, fun _ => rfl⟩

theorem ofNanoseconds?_nanoseconds (instant : Instant) :
    ofNanoseconds? instant.nanoseconds = some instant :=
  ofNanoseconds?_eq_some_iff.mpr rfl

def add? (instant : Instant) (nanoseconds : Int) : Option Instant :=
  ofNanoseconds? (instant.nanoseconds + nanoseconds)

def ofSeconds? (seconds nanoseconds : Int) : Option Instant :=
  ofNanoseconds? (seconds * secondLength + nanoseconds)

def seconds (instant : Instant) : Int :=
  instant.nanoseconds / secondLength

def subsecond (instant : Instant) : Int :=
  instant.nanoseconds % secondLength

end Instant

namespace WallTime

def ofNanoseconds? (nanoseconds : Int) : Option WallTime :=
  if inCalendar : InCalendar nanoseconds then some ⟨nanoseconds, inCalendar⟩ else none

theorem ofNanoseconds?_eq_some_iff {nanoseconds : Int} {wall : WallTime} :
    ofNanoseconds? nanoseconds = some wall ↔ wall.nanoseconds = nanoseconds := by
  unfold ofNanoseconds?
  split
  · constructor
    · intro same
      cases same
      rfl
    · intro same
      cases same
      rfl
  · rename_i outside
    constructor
    · intro same
      cases same
    · intro same
      exact absurd (same ▸ wall.inCalendar) outside

theorem ofNanoseconds?_eq_none_iff {nanoseconds : Int} :
    ofNanoseconds? nanoseconds = none ↔ ¬ InCalendar nanoseconds := by
  unfold ofNanoseconds?
  split
  · rename_i inside
    exact ⟨(fun absent => nomatch absent), fun outside => absurd inside outside⟩
  · rename_i outside
    exact ⟨fun _ => outside, fun _ => rfl⟩

def day (wall : WallTime) : Int :=
  wall.nanoseconds / dayLength

def timeOfDay (wall : WallTime) : Int :=
  wall.nanoseconds % dayLength

def seconds (wall : WallTime) : Int :=
  wall.nanoseconds / secondLength

def midnight? (day : Int) : Option WallTime :=
  ofNanoseconds? (day * dayLength)

def add? (wall : WallTime) (nanoseconds : Int) : Option WallTime :=
  ofNanoseconds? (wall.nanoseconds + nanoseconds)

/-- The same time of day a number of months later, on the last day of a month too short. -/
def addMonths? (wall : WallTime) (months : Nat) : Option WallTime :=
  ofNanoseconds? (addMonths wall.day months * dayLength + wall.timeOfDay)

def subMonths? (wall : WallTime) (months : Nat) : Option WallTime :=
  ofNanoseconds? (addMonths wall.day (-months) * dayLength + wall.timeOfDay)

/-- The same time of day a signed number of months away. Either way they are counted without a sign. -/
def moveMonths? (wall : WallTime) (months : Int) : Option WallTime :=
  if 0 ≤ months then wall.addMonths? months.natAbs else wall.subMonths? months.natAbs

theorem moveMonths?_eq (wall : WallTime) (months : Int) :
    wall.moveMonths? months
      = ofNanoseconds? (addMonths wall.day months * dayLength + wall.timeOfDay) := by
  unfold moveMonths?
  split
  · rename_i forwards
    rw [addMonths?, Int.natAbs_of_nonneg forwards]
  · rename_i backwards
    rw [subMonths?, Int.ofNat_natAbs_of_nonpos (Int.le_of_not_le backwards), Int.neg_neg]

def ofDateTime? (date : Date) (clock : ClockTime) : Option WallTime :=
  ofNanoseconds? (date.number * dayLength + clock.minutes * 60 * secondLength)

end WallTime

end TimeRange.Calendar
