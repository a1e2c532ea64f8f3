import TimeRange.Calendar.Instant

/-!
# Time zones

A zone is the history of the offset between its wall clocks and Universal
Time: an offset that holds from the beginning, and transitions, in the order
of time, at which it changes. Between transitions lie spans of a constant
offset. An instant lies in one span. A wall-clock time may belong to one span,
to two when the clocks were set back, or to none when they were set forward.

`wallTime?` reads the clocks of a zone, and `locate?` finds the instant at
which they show a given time.
-/

namespace TimeRange

open Calendar

/-- A change of offset at an instant, given in seconds since the start of 1970. -/
structure Transition where
  second : Int
  /-- The offset from then on, in seconds east of Universal Time. -/
  offset : Int
  deriving DecidableEq, Repr

structure Zone where
  /-- The offset before the first transition, in seconds east of Universal Time. -/
  initialOffset : Int
  transitions : List Transition
  deriving DecidableEq, Repr

/-- A stretch of time with one offset, from its start on and up to its stop; an absent bound is never reached. -/
structure Span where
  start? : Option Int
  stop? : Option Int
  offset : Int
  deriving DecidableEq, Repr

namespace Span

def holds (span : Span) (second : Int) : Bool :=
  span.start?.all (· ≤ second) && span.stop?.all (second < ·)

theorem holds_iff {span : Span} {second : Int} :
    span.holds second = true ↔
      (∀ start, span.start? = some start → start ≤ second)
        ∧ ∀ stop, span.stop? = some stop → second < stop := by
  rcases span with ⟨start?, stop?, offset⟩
  cases start? <;> cases stop? <;> simp [holds]

/-- Whether the wall clock shows this second at some time in the span. -/
def shows (span : Span) (wallSecond : Int) : Bool :=
  span.holds (wallSecond - span.offset)

/-- The wall clock shows the seconds of the span, each with the offset added. -/
theorem shows_add_offset (span : Span) (second : Int) :
    span.shows (second + span.offset) = span.holds second := by
  unfold shows
  rw [Int.add_sub_cancel]

end Span

namespace Zone

def fixed (offset : Int) : Zone :=
  ⟨offset, []⟩

def spansFrom (start? : Option Int) (offset : Int) : List Transition → List Span
  | [] => [⟨start?, none, offset⟩]
  | next :: later => ⟨start?, some next.second, offset⟩ :: spansFrom (some next.second) next.offset later

def spans (zone : Zone) : List Span :=
  spansFrom none zone.initialOffset zone.transitions

def offsetAfter (offset : Int) : List Transition → Int → Int
  | [], _ => offset
  | next :: later, second =>
      if second < next.second then offset else offsetAfter next.offset later second

def offsetAtSecond (zone : Zone) (second : Int) : Int :=
  offsetAfter zone.initialOffset zone.transitions second

def offsetAt (zone : Zone) (instant : Instant) : Int :=
  zone.offsetAtSecond instant.seconds

/--
What the wall clocks of a zone show at an instant, as a count of nanoseconds.
Near the ends of the calendar it may lie outside it.
-/
def wallNanoseconds (zone : Zone) (instant : Instant) : Int :=
  instant.nanoseconds + zone.offsetAt instant * secondLength

def wallTime? (zone : Zone) (instant : Instant) : Option WallTime :=
  WallTime.ofNanoseconds? (zone.wallNanoseconds instant)

def spanShowing? (zone : Zone) (wall : WallTime) : Option Span :=
  zone.spans.find? (·.shows wall.seconds)

/--
The instant at which the wall clock shows a time. Of two such instants it is
the earlier one. A time that the clocks skip is read with the offset in force
a day before, taken at the wall-clock count as if it were Universal Time, and
so comes to lie after the skip. There is none outside the calendar.
-/
def locate? (zone : Zone) (wall : WallTime) : Option Instant :=
  match zone.spanShowing? wall with
  | some span => Instant.ofNanoseconds? (wall.nanoseconds - span.offset * secondLength)
  | none => do
      let eve ← Instant.ofNanoseconds? (wall.nanoseconds - dayLength)
      Instant.ofNanoseconds? (wall.nanoseconds - zone.offsetAt eve * secondLength)

theorem locate?_fixed (offset : Int) (wall : WallTime) :
    (fixed offset).locate? wall
      = Instant.ofNanoseconds? (wall.nanoseconds - offset * secondLength) := rfl

end Zone

end TimeRange
