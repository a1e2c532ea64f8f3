import Mathlib.Order.Bounds.Basic
import TimeRange.Proofs.Calendar.MonthMoves
import TimeRange.Proofs.Zone.ConstantOffset

/-!
# The ends of the calendar

In Universal Time, moving and rounding an instant are arithmetic on its count of
nanoseconds. A result is missing only if its year is not one of those that the
calendar covers, and then always: a count or a duration that has too many bits leads
past the calendar anyway, which is shown in `BoundedMoves`.

The main statement is `eq_none_iff_past_the_calendar`.
-/

namespace TimeRange

open Calendar

namespace Calendar

/-- The year of a count of nanoseconds since the start of 1970, on a calendar without ends. -/
def yearAt (nanoseconds : Int) : Int :=
  (Date.mk (nanoseconds / dayLength)).year

theorem yearStart_le_iff (year day : Int) : yearStart year ≤ day ↔ year ≤ (Date.mk day).year := by
  have january : monthStart (12 * year) = yearStart year := by
    have first := monthStart_of_year year 1 (by decide) (by decide)
    rwa [Int.add_sub_cancel, show daysBeforeMonth (leapDays year) 1 = 0 from rfl, Int.add_zero] at first
  calc yearStart year ≤ day ↔ monthStart (12 * year) ≤ day := by rw [january]
    _ ↔ 12 * year ≤ monthOf day := Grid.months.start_le_iff
    _ ↔ year ≤ monthOf day / 12 := by omega

theorem first_le_iff_yearAt {nanoseconds : Int} :
    Instant.first.nanoseconds ≤ nanoseconds ↔ -262143 ≤ yearAt nanoseconds := by
  change -8334601228800000000000 ≤ nanoseconds ↔ _
  rw [yearAt, ← yearStart_le_iff, show yearStart (-262143) = -96465292 by decide]
  unfold dayLength
  omega

theorem le_last_iff_yearAt {nanoseconds : Int} :
    nanoseconds ≤ Instant.last.nanoseconds ↔ yearAt nanoseconds ≤ 262142 := by
  change nanoseconds ≤ 8210266876799999999999 ↔ _
  have next := yearStart_le_iff 262143 (nanoseconds / dayLength)
  rw [show yearStart 262143 = 95026237 by decide, ← yearAt] at next
  unfold dayLength at next
  omega

/-- The calendar covers the years from -262143 to 262142. -/
theorem inCalendar_iff_yearAt {nanoseconds : Int} :
    InCalendar nanoseconds ↔ -262143 ≤ yearAt nanoseconds ∧ yearAt nanoseconds ≤ 262142 :=
  and_congr first_le_iff_yearAt (Int.lt_add_one_iff.trans le_last_iff_yearAt)

/-- A count that is not after an instant can only lie outside the calendar before its first year. -/
theorem not_inCalendar_iff_of_le {nanoseconds : Int} {instant : Instant}
    (notAfter : nanoseconds ≤ instant.nanoseconds) :
    ¬ InCalendar nanoseconds ↔ yearAt nanoseconds < -262143 := by
  have covered : instant.nanoseconds ≤ Instant.last.nanoseconds :=
    Int.le_of_lt_add_one instant.inCalendar.2
  have early := le_last_iff_yearAt.mp (Int.le_trans notAfter covered)
  rw [inCalendar_iff_yearAt, and_iff_left early, Int.not_le]

/-- A count that is not before an instant can only lie outside the calendar after its last year. -/
theorem not_inCalendar_iff_of_ge {nanoseconds : Int} {instant : Instant}
    (notBefore : instant.nanoseconds ≤ nanoseconds) :
    ¬ InCalendar nanoseconds ↔ 262142 < yearAt nanoseconds := by
  have late := first_le_iff_yearAt.mp (Int.le_trans instant.inCalendar.1 notBefore)
  rw [inCalendar_iff_yearAt, and_iff_right late, Int.not_le]

end Calendar

/--
Whether a move by a number of units leads from one count of nanoseconds to another
one, on a calendar without ends. Seconds up to weeks are so many nanoseconds. Months,
quarters and years lead to a date so many months later, at the same time of day.
-/
def TimeUnit.LeadsTo (unit : TimeUnit) (count start target : Int) : Prop :=
  match unit with
  | .second => target = start + count * secondLength
  | .minute => target = start + count * (60 * secondLength)
  | .hour => target = start + count * (3600 * secondLength)
  | .day => target = start + count * dayLength
  | .week => target = start + count * (7 * dayLength)
  | .month => LiesMonthsAfter target start count
  | .quarter => LiesMonthsAfter target start (count * 3)
  | .year => LiesMonthsAfter target start (count * 12)

variable {convention : Convention} {unit : TimeUnit} {count start target nanoseconds : Int}
  {instant : Instant}

theorem TimeUnit.leadsTo_iff :
    unit.LeadsTo count start target ↔ target = unit.measure.shift count start := by
  cases unit with
  | second => exact Iff.rfl
  | minute => exact Iff.rfl
  | hour => exact Iff.rfl
  | day =>
      change target = start + count * dayLength ↔ target = (Measure.days 1).shift count start
      rw [Measure.shift_days, Int.mul_one]
  | week =>
      change target = start + count * (7 * dayLength) ↔ target = (Measure.days 7).shift count start
      rw [Measure.shift_days, Int.mul_assoc]
  | month =>
      change _ ↔ target = (Measure.months 1).shift count start
      rw [Measure.eq_shift_months_iff, Int.mul_one]
      rfl
  | quarter => exact Measure.eq_shift_months_iff.symm
  | year => exact Measure.eq_shift_months_iff.symm

/-! ## Where buckets start -/

namespace Calendar.Convention

/-- Whether a bucket of a unit starts at a count that is not after another one, and none between them. -/
def IsBucketStart (convention : Convention) (unit : TimeUnit) (nanoseconds start : Int) : Prop :=
  IsGreatest {start | convention.AtBoundary unit start ∧ start ≤ nanoseconds} start

/-- Whether the first bucket of a unit that starts after a count starts at another one. -/
def IsNextStart (convention : Convention) (unit : TimeUnit) (nanoseconds start : Int) : Prop :=
  IsLeast {start | convention.AtBoundary unit start ∧ nanoseconds < start} start

theorem isBucketStart_iff :
    convention.IsBucketStart unit nanoseconds start ↔
      (convention.grid unit).floor nanoseconds = start := by
  refine IsGreatest.isGreatest_iff_eq ⟨⟨?_, Grid.floor_le _ _⟩, ?_⟩
  · exact (convention.atBoundary_iff_starts unit _).mpr (Grid.starts_floor _ _)
  · rintro other ⟨starts, below⟩
    exact Grid.le_floor ((convention.atBoundary_iff_starts unit other).mp starts) below

theorem isNextStart_iff :
    convention.IsNextStart unit nanoseconds start ↔
      (convention.grid unit).after 1 nanoseconds = start := by
  refine IsLeast.isLeast_iff_eq ⟨⟨?_, Grid.lt_after_one _ _⟩, ?_⟩
  · exact (convention.atBoundary_iff_starts unit _).mpr (Grid.starts_after _ _ _)
  · rintro other ⟨starts, above⟩
    exact Grid.after_one_le ((convention.atBoundary_iff_starts unit other).mp starts) above

end Calendar.Convention

/-! ## Universal Time -/

namespace Zone

theorem shift?_utc (unit : TimeUnit) (count : Int) (instant : Instant) :
    NamedZone.utc.toZone.shift? unit count instant
      = Instant.ofNanoseconds? (unit.measure.shift count instant.nanoseconds) := by
  apply Option.ext
  intro moved
  have found := @shift?_fixed_eq_some_iff unit instant 0 count moved
  simp only [wallNanoseconds_fixed, Int.zero_mul, Int.add_zero] at found
  rw [Instant.ofNanoseconds?_eq_some_iff]
  exact found.trans (and_iff_right fun _ => ⟨instant.inCalendar, moved.inCalendar⟩)

theorem truncate?_utc (convention : Convention) (unit : TimeUnit) (instant : Instant) :
    NamedZone.utc.toZone.truncate? convention (some unit) instant
      = Instant.ofNanoseconds? ((convention.grid unit).floor instant.nanoseconds) := by
  apply Option.ext
  intro start
  have found := @truncate?_fixed_eq_some_iff convention unit instant 0 start
  simp only [wallNanoseconds_fixed, Int.zero_mul, Int.add_zero] at found
  rw [Instant.ofNanoseconds?_eq_some_iff]
  refine found.trans ⟨fun rounded => rounded.2.2, fun same => ?_⟩
  exact ⟨instant.inCalendar, same ▸ start.inCalendar, same⟩

/-- In Universal Time rounding up is rounding up the count, if the start of the bucket is in the calendar. -/
theorem ceiling?_utc {start : Instant}
    (found : NamedZone.utc.toZone.truncate? convention (some unit) instant = some start) :
    NamedZone.utc.toZone.ceiling? convention (some unit) instant
      = Instant.ofNanoseconds? ((convention.grid unit).ceiling instant.nanoseconds) := by
  have startAt : start.nanoseconds = (convention.grid unit).floor instant.nanoseconds := by
    rwa [truncate?_utc, Instant.ofNanoseconds?_eq_some_iff] at found
  change NamedZone.utc.toZone.bucketStart? convention unit instant = some start at found
  change NamedZone.utc.toZone.bucketCeiling? convention unit instant = _
  simp only [bucketCeiling?, found, Option.bind_eq_bind, Option.bind_some]
  split
  · rename_i starts
    subst starts
    rw [Grid.ceiling_eq_self_iff.mpr startAt.symm, Instant.ofNanoseconds?_nanoseconds]
  · rename_i within
    have inside : ¬ (convention.grid unit).Starts instant.nanoseconds := fun starts =>
      within (Instant.eq_of_nanoseconds_eq (startAt.trans starts))
    rw [shift?_utc, startAt, Grid.floor, Convention.shift_grid_start, Grid.ceiling, if_neg inside]
    rfl

/-! ## Missing results -/

theorem shift?_utc_eq_none_iff :
    NamedZone.utc.toZone.shift? unit count instant = none ↔
      ∃ target, unit.LeadsTo count instant.nanoseconds target
        ∧ ¬ (-262143 ≤ yearAt target ∧ yearAt target ≤ 262142) := by
  simp only [shift?_utc, Instant.ofNanoseconds?_eq_none_iff, inCalendar_iff_yearAt,
    TimeUnit.leadsTo_iff, exists_eq_left]

theorem truncate?_utc_eq_none_iff :
    NamedZone.utc.toZone.truncate? convention (some unit) instant = none ↔
      ∃ start, convention.IsBucketStart unit instant.nanoseconds start
        ∧ yearAt start < -262143 := by
  simp only [Convention.isBucketStart_iff, exists_eq_left', truncate?_utc,
    Instant.ofNanoseconds?_eq_none_iff, not_inCalendar_iff_of_le (Grid.floor_le _ _)]

theorem ceiling?_utc_eq_none_iff :
    NamedZone.utc.toZone.ceiling? convention (some unit) instant = none ↔
      NamedZone.utc.toZone.truncate? convention (some unit) instant = none ∨
        ¬ convention.AtBoundary unit instant.nanoseconds ∧
          ∃ stop, convention.IsNextStart unit instant.nanoseconds stop ∧ 262142 < yearAt stop := by
  simp only [Convention.isNextStart_iff, exists_eq_left']
  cases found : NamedZone.utc.toZone.truncate? convention (some unit) instant with
  | none =>
      have unrounded : NamedZone.utc.toZone.ceiling? convention (some unit) instant = none :=
        congrArg (Option.bind · _) found
      exact iff_of_true unrounded (.inl rfl)
  | some start =>
      have above := Int.le_of_lt ((convention.grid unit).lt_after_one instant.nanoseconds)
      rw [ceiling?_utc found, Instant.ofNanoseconds?_eq_none_iff, convention.atBoundary_iff_starts,
        Grid.ceiling, ← not_inCalendar_iff_of_ge above, or_iff_right (Option.some_ne_none _)]
      split
      · rename_i starts
        exact iff_of_false (not_not_intro instant.inCalendar) fun inside => inside.1 starts
      · rename_i inside
        exact (and_iff_right inside).symm

/--
In Universal Time a move has no result exactly if it leads to a year that the
calendar does not cover, whatever the count. Rounding down has none exactly if the
bucket starts before the first year. Rounding up has none exactly if rounding down
has none, or the instant starts no bucket and the next one starts after the last year.
-/
theorem eq_none_iff_past_the_calendar (convention : Convention) (unit : TimeUnit)
    (instant : Instant) :
    (∀ count, NamedZone.utc.toZone.shift? unit count instant = none ↔
        ∃ target, unit.LeadsTo count instant.nanoseconds target
          ∧ ¬ (-262143 ≤ yearAt target ∧ yearAt target ≤ 262142)) ∧
      (NamedZone.utc.toZone.truncate? convention (some unit) instant = none ↔
        ∃ start, convention.IsBucketStart unit instant.nanoseconds start
          ∧ yearAt start < -262143) ∧
      (NamedZone.utc.toZone.ceiling? convention (some unit) instant = none ↔
        NamedZone.utc.toZone.truncate? convention (some unit) instant = none ∨
          ¬ convention.AtBoundary unit instant.nanoseconds ∧
            ∃ stop, convention.IsNextStart unit instant.nanoseconds stop ∧ 262142 < yearAt stop) :=
  ⟨fun _ => shift?_utc_eq_none_iff, truncate?_utc_eq_none_iff, ceiling?_utc_eq_none_iff⟩

/-- The least count of 32 bits has no product with three or twelve in them, and as months leads too far. -/
example : ∀ unit ∈ [TimeUnit.month, .quarter, .year],
    NamedZone.utc.toZone.shift? unit (-2147483648) .epoch = none := by decide

/-- The first January of the calendar lies in a fiscal year that began in the February before it. -/
example : NamedZone.utc.toZone.truncate? ⟨1, 2⟩ (some .year) Instant.first = none := by decide

end Zone

end TimeRange
