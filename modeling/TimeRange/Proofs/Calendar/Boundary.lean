import TimeRange.Proofs.Calendar.Grid

/-!
# Boundaries on a wall clock

What it means that a wall clock is at the start of a second, a minute, an hour,
a day, a week, a month, a quarter or a year, said by the time of day, the
weekday and the numbers of the date. The main statement is
`atBoundary_iff_starts`: these are the counts at which a bucket of the unit
starts.
-/

namespace TimeRange.Calendar.Convention

/--
Whether a wall clock that shows a count of nanoseconds is at the start of a
bucket of a unit. Weeks start on the first weekday of the convention, quarters
in the months that differ from its first month by a multiple of three, and
years in its first month.
-/
def AtBoundary (convention : Convention) (unit : TimeUnit) (nanoseconds : Int) : Prop :=
  let timeOfDay := nanoseconds % dayLength
  let date : Date := ⟨nanoseconds / dayLength⟩
  match unit with
  | .second => timeOfDay % secondLength = 0
  | .minute => timeOfDay % (60 * secondLength) = 0
  | .hour => timeOfDay % (3600 * secondLength) = 0
  | .day => timeOfDay = 0
  | .week => timeOfDay = 0 ∧ weekday date.number = validDay convention.firstDayOfWeek
  | .month => timeOfDay = 0 ∧ date.dayOfMonth = 1
  | .quarter =>
      timeOfDay = 0 ∧ date.dayOfMonth = 1
        ∧ date.month % 3 = validMonth convention.firstMonthOfYear % 3
  | .year =>
      timeOfDay = 0 ∧ date.dayOfMonth = 1 ∧ date.month = validMonth convention.firstMonthOfYear

variable (convention : Convention)

/-- A bucket of a calendar unit starts with the midnight that begins its first day. -/
theorem starts_grid_iff (unit : TimeUnit) (calendar : unit.measure.IsCalendar) (nanoseconds : Int) :
    (convention.grid unit).Starts nanoseconds ↔
      nanoseconds % dayLength = 0
        ∧ (convention.dateGrid unit).Starts (nanoseconds / dayLength) := by
  unfold grid dateGrid
  rw [gridOf_of_isCalendar convention calendar, Grid.starts_grouped_iff, Grid.starts_days_iff,
    Grid.index_days]

/-- A bucket of days starts with the midnight of a day that is in step with the first weekday. -/
theorem starts_grid_of_days {unit : TimeUnit} {size : Int} (days : unit.measure = .days size)
    (nanoseconds : Int) :
    (convention.grid unit).Starts nanoseconds ↔
      nanoseconds % dayLength = 0
        ∧ (nanoseconds / dayLength - convention.weekPhase) % size = 0 := by
  have calendar : unit.measure.IsCalendar := by
    rw [days]
    trivial
  rw [starts_grid_iff convention unit calendar]
  unfold dateGrid
  generalize unit.measure_size_pos = positive
  revert positive
  rw [days]
  intro positive
  exact and_congr_right fun _ => Grid.starts_uniform_iff positive _ _

/--
A bucket of months starts with the midnight that begins the first day of a month
that is in step with the first month.
-/
theorem starts_grid_of_months {unit : TimeUnit} {size : Int} (months : unit.measure = .months size)
    (nanoseconds : Int) :
    (convention.grid unit).Starts nanoseconds ↔
      nanoseconds % dayLength = 0 ∧ (Date.mk (nanoseconds / dayLength)).dayOfMonth = 1
        ∧ (monthOf (nanoseconds / dayLength) - convention.yearPhase) % size = 0 := by
  have calendar : unit.measure.IsCalendar := by
    rw [months]
    trivial
  rw [starts_grid_iff convention unit calendar]
  unfold dateGrid
  generalize unit.measure_size_pos = positive
  revert positive
  rw [months]
  intro positive
  refine and_congr_right fun _ => (Grid.starts_grouped_iff _ _ _).trans ?_
  exact and_congr (Grid.starts_months_iff _) (Grid.starts_uniform_iff positive _ _)

theorem atBoundary_iff_starts (unit : TimeUnit) (nanoseconds : Int) :
    convention.AtBoundary unit nanoseconds ↔ (convention.grid unit).Starts nanoseconds := by
  have dayBounds := validDay_bounds convention.firstDayOfWeek
  have monthBounds := validMonth_bounds convention.firstMonthOfYear
  have exactly {length : Int} (positive : 0 < length) (divides : length ∣ dayLength) :
      nanoseconds % dayLength % length = 0
        ↔ (Grid.uniform length 0 positive).Starts nanoseconds := by
    rw [Grid.starts_uniform_iff, Int.sub_zero, Int.emod_emod_of_dvd _ divides]
  cases unit with
  | second => exact exactly (show (0 : Int) < 1000000000 by decide) (by decide)
  | minute => exact exactly (show (0 : Int) < 60000000000 by decide) (by decide)
  | hour => exact exactly (show (0 : Int) < 3600000000000 by decide) (by decide)
  | day =>
      rw [starts_grid_of_days convention rfl]
      exact ⟨fun midnight => ⟨midnight, Int.emod_one _⟩, And.left⟩
  | week =>
      rw [starts_grid_of_days convention rfl]
      refine and_congr_right fun _ => ?_
      simp only [weekday, weekPhase]
      omega
  | month =>
      rw [starts_grid_of_months convention rfl]
      exact and_congr_right fun _ => (and_iff_left (Int.emod_one _)).symm
  | quarter =>
      rw [starts_grid_of_months convention rfl]
      refine and_congr_right fun _ => and_congr_right fun _ => ?_
      simp only [Date.month, yearPhase]
      omega
  | year =>
      rw [starts_grid_of_months convention rfl]
      refine and_congr_right fun _ => and_congr_right fun _ => ?_
      simp only [Date.month, yearPhase]
      omega

end TimeRange.Calendar.Convention
