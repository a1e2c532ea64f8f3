import TimeRange.Zone.Shift

/-!
# Moves by bounded counts

The counts of days and months by which an instant is moved, and the durations,
are held in so many bits. The calendar is shorter than any of them: from one
time that it covers to another one there are at most 524286 years. So a count
or a duration that is too large leads outside the calendar, and the bounds take
no result away. The main statements are `shiftBy?_exact`, `shiftBy?_days` and
`shiftBy?_months`, which give every move without them.
-/

namespace TimeRange

open Calendar

namespace Calendar

/-- The months of the calendar are those of the years -262143 to 262142. -/
theorem monthOf_bounds {nanoseconds : Int} (inside : InCalendar nanoseconds) :
    -3145716 ≤ monthOf (nanoseconds / dayLength) ∧ monthOf (nanoseconds / dayLength) < 3145716 := by
  have first : monthStart (-3145716) = -96465292 := by decide
  have behind : monthStart 3145716 = 95026237 := by decide
  obtain ⟨starts, stops⟩ := monthOf_holds (nanoseconds / dayLength)
  have days : -96465292 ≤ nanoseconds / dayLength ∧ nanoseconds / dayLength < 95026237 := by
    unfold InCalendar at inside
    unfold dayLength
    omega
  constructor
  · have later := (monthStart_lt_iff (-3145716) (monthOf (nanoseconds / dayLength) + 1)).mp (by omega)
    omega
  · exact (monthStart_lt_iff _ 3145716).mp (by omega)

/-- Two times that the calendar covers lie less than 2^63 milliseconds apart. -/
theorem duration_bounds {nanoseconds duration : Int} (inside : InCalendar nanoseconds)
    (reached : InCalendar (nanoseconds + duration)) :
    -9223372036854775807000000 ≤ duration ∧ duration ≤ 9223372036854775807000000 := by
  unfold InCalendar at inside reached
  omega

theorem Instant.add?_duration (instant : Instant) (nanoseconds : Int) :
    (duration? nanoseconds).bind instant.add? = instant.add? nanoseconds := by
  refine within?_bind fun moved found => duration_bounds instant.inCalendar ?_
  rw [← ofNanoseconds?_eq_some_iff.mp found]
  exact moved.inCalendar

namespace WallTime

theorem add?_duration (wall : WallTime) (nanoseconds : Int) :
    (duration? nanoseconds).bind wall.add? = wall.add? nanoseconds := by
  refine within?_bind fun moved found => duration_bounds wall.inCalendar ?_
  rw [← ofNanoseconds?_eq_some_iff.mp found]
  exact moved.inCalendar

theorem day_of_moveMonths? {wall moved : WallTime} {months : Int}
    (found : wall.moveMonths? months = some moved) : moved.day = addMonths wall.day months := by
  rw [moveMonths?_eq, ofNanoseconds?_eq_some_iff] at found
  rw [day, found]
  unfold timeOfDay dayLength
  omega

/-- Two times that the calendar covers lie less than 2^31 months apart. -/
theorem months_bounds {wall moved : WallTime} {months : Int}
    (found : wall.moveMonths? months = some moved) :
    -2147483648 ≤ months ∧ months ≤ 2147483647 := by
  have start := monthOf_bounds wall.inCalendar
  have stop := monthOf_bounds moved.inCalendar
  have away := monthOf_addMonths wall.day months
  rw [← day_of_moveMonths? found] at away
  change monthOf (moved.nanoseconds / dayLength) = monthOf (wall.nanoseconds / dayLength) + months at away
  omega

end WallTime

end Calendar

namespace Zone

variable {zone : Zone} {instant : Instant}

theorem shiftDays?_eq (days : Int) :
    zone.shiftDays? days instant = (zone.wallTime? instant).bind fun wall =>
      (wall.add? (days * dayLength)).bind zone.locate? := by
  unfold shiftDays?
  refine congrArg _ (funext fun wall => ?_)
  exact (Option.bind_assoc _ _ _).symm.trans (congrArg (Option.bind · _) (wall.add?_duration _))

theorem shiftBy?_exact (length count : Int) :
    zone.shiftBy? (.exact length) count instant
      = Instant.ofNanoseconds? (instant.nanoseconds + count * length) :=
  instant.add?_duration (count * length)

theorem shiftBy?_days (size count : Int) :
    zone.shiftBy? (.days size) count instant = (zone.wallTime? instant).bind fun wall =>
      (wall.add? (count * size * dayLength)).bind zone.locate? := by
  rw [← shiftDays?_eq]
  -- What has to be shown is only that a move with a result has a count of days within 64 bits.
  refine within?_bind fun moved found => ?_
  rw [shiftDays?_eq, Option.bind_eq_some_iff] at found
  obtain ⟨wall, _, onwards⟩ := found
  obtain ⟨reached, aimed, _⟩ := Option.bind_eq_some_iff.mp onwards
  have bounds := duration_bounds wall.inCalendar
    (WallTime.ofNanoseconds?_eq_some_iff.mp aimed ▸ reached.inCalendar)
  unfold dayLength at bounds
  omega

theorem shiftBy?_months (size count : Int) :
    zone.shiftBy? (.months size) count instant = (zone.wallTime? instant).bind fun wall =>
      (wall.moveMonths? (count * size)).bind zone.locate? := by
  change (product32? count size).bind (zone.shiftMonths? · instant)
    = zone.shiftMonths? (count * size) instant
  refine within?_bind fun moved found => ?_
  obtain ⟨wall, _, onwards⟩ := Option.bind_eq_some_iff.mp found
  obtain ⟨reached, aimed, _⟩ := Option.bind_eq_some_iff.mp onwards
  exact WallTime.months_bounds aimed

end Zone

end TimeRange
