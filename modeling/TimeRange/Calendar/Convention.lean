import TimeRange.Calendar.Month
import TimeRange.Calendar.TimeUnit

/-!
# Calendar conventions and buckets of days

A convention says on which weekday a week begins and in which month a fiscal
year begins. Weeks, months, quarters and years then cut the days into buckets,
and `bucketStart` is the first day of the bucket that holds a day. Every kind
of bucket is an instance of `alignDown`, the greatest number of an arithmetic
progression that does not exceed a given one.
-/

namespace TimeRange.Calendar

/-- The greatest number not above `value` that differs from `phase` by a multiple of `size`. -/
def alignDown (size phase value : Int) : Int :=
  value - (value - phase) % size

/-- The first weekday of a week, 1 for Monday, and the first month of a fiscal year, 1 for January. -/
structure Convention where
  firstDayOfWeek : Nat
  firstMonthOfYear : Nat
  deriving DecidableEq, Repr

namespace Convention

/-- A weekday number, or Monday in place of a number that is none. -/
def validDay (day : Nat) : Nat :=
  if 1 ≤ day ∧ day ≤ 7 then day else 1

def validMonth (month : Nat) : Nat :=
  if 1 ≤ month ∧ month ≤ 12 then month else 1

theorem validDay_bounds (day : Nat) : 1 ≤ validDay day ∧ validDay day ≤ 7 := by
  unfold validDay
  split <;> omega

theorem validMonth_bounds (month : Nat) : 1 ≤ validMonth month ∧ validMonth month ≤ 12 := by
  unfold validMonth
  split <;> omega

def standard : Convention := ⟨1, 1⟩

/-- A day on which a week of this convention begins. Day 0 is a Thursday, so day -4 is a Sunday. -/
def weekPhase (convention : Convention) : Int :=
  (validDay convention.firstDayOfWeek : Int) - 4

def yearPhase (convention : Convention) : Int :=
  (validMonth convention.firstMonthOfYear : Int) - 1

def monthBucket (convention : Convention) (size month : Int) : Int :=
  alignDown size convention.yearPhase month

/--
The first day of the bucket that holds a day. Buckets of days are weeks, or
single days; buckets of months are aligned on the fiscal year. A measure that
is not counted in days has the day itself.
-/
def bucketStart (convention : Convention) (measure : Measure) (day : Int) : Int :=
  match measure with
  | .exact _ => day
  | .days size => alignDown size convention.weekPhase day
  | .months size => monthStart (convention.monthBucket size (monthOf day))

end Convention

end TimeRange.Calendar
