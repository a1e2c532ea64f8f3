import TimeRange.Zone.Basic
import TimeRange.Calendar.TimeUnit

/-!
# Moving an instant by calendar units

Seconds, minutes and hours are exact durations and move the instant itself.
Days and weeks keep the time of day on the wall clock, and months, quarters
and years keep the day of the month as well, where the month has it. A move
that leaves the calendar has no result; nor has a move on the wall clock from
an instant whose wall-clock time lies outside the calendar.

Counts of days are held in 64 bits and counts of months in 32, and a duration
is at most as many milliseconds as 64 bits can hold. A move whose count or
duration is too large for them has no result either.
-/

namespace TimeRange

def within? (least greatest number : Int) : Option Int :=
  if least ≤ number ∧ number ≤ greatest then some number else none

theorem within?_eq_some {least greatest number : Int} (lower : least ≤ number)
    (upper : number ≤ greatest) : within? least greatest number = some number :=
  if_pos ⟨lower, upper⟩

/-- A step that only succeeds on numbers between the bounds is not kept from any of them. -/
theorem within?_bind {α : Type} {least greatest number : Int} {step : Int → Option α}
    (kept : ∀ result, step number = some result → least ≤ number ∧ number ≤ greatest) :
    (within? least greatest number).bind step = step number := by
  cases stepped : step number with
  | none =>
      unfold within?
      split
      · exact stepped
      · rfl
  | some result =>
      rw [within?_eq_some (kept result stepped).1 (kept result stepped).2, Option.bind_some, stepped]

/-- The product of two numbers, if 32 bits can hold it. -/
def product32? (left right : Int) : Option Int :=
  within? (-2147483648) 2147483647 (left * right)

def product64? (left right : Int) : Option Int :=
  within? (-9223372036854775808) 9223372036854775807 (left * right)

/-- A duration in nanoseconds, if it is at most 2^63 - 1 milliseconds forwards or backwards. -/
def duration? (nanoseconds : Int) : Option Int :=
  within? (-9223372036854775807000000) 9223372036854775807000000 nanoseconds

namespace Zone

open Calendar

def shiftDays? (zone : Zone) (days : Int) (instant : Instant) : Option Instant := do
  let wall ← zone.wallTime? instant
  let duration ← duration? (days * dayLength)
  let moved ← wall.add? duration
  zone.locate? moved

def shiftMonths? (zone : Zone) (months : Int) (instant : Instant) : Option Instant := do
  let wall ← zone.wallTime? instant
  let moved ← wall.moveMonths? months
  zone.locate? moved

/-- Moves an instant by a number of steps of a measure on the clocks of a zone. -/
def shiftBy? (zone : Zone) (measure : Measure) (count : Int) (instant : Instant) : Option Instant :=
  -- A count itself has 32 bits, so that its product with a single day or month always fits.
  match measure with
  | .exact length => do
      let duration ← duration? (count * length)
      instant.add? duration
  | .days size => do
      let days ← product64? count size
      zone.shiftDays? days instant
  | .months size => do
      let months ← product32? count size
      zone.shiftMonths? months instant

def shift? (zone : Zone) (unit : TimeUnit) (count : Int) (instant : Instant) : Option Instant :=
  zone.shiftBy? unit.measure count instant

end Zone

end TimeRange
