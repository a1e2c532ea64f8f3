import TimeRange.Proofs.Calendar.Gregorian
import TimeRange.Proofs.Calendar.Grid

/-!
# Moves by months in terms of dates

A move by months is made on the numbers of months and days. Here it is said by the
year, the month and the day of the month: a date that many months later, on the
same day of the month or on the last one of a month that is too short. What is lost
in a short month is not found again, so that two moves may lead to an earlier day
than one, and a move back may not lead home.

The main statements are `Date.isMonthsAfter_iff`, `Date.IsMonthsAfter.of_twice` and
`Date.IsMonthsAfter.back_iff`.
-/

namespace TimeRange

open Calendar

namespace Calendar.Date

variable {date middle later once twice : Date} {count further : Int}

/-- The months are numbered from January of year 0 on. -/
theorem twelve_mul_year_add_month (date : Date) :
    12 * date.year + date.month = monthOf date.number + 1 := by
  unfold year month
  omega

/-- The month of a date is as long as the table says. -/
theorem daysOfMonth_eq (date : Date) :
    daysOfMonth date.year date.month = monthLength (monthOf date.number) := by
  rw [← monthLength_of_year date.year date.month date.month_bounds.1 date.month_bounds.2,
    twelve_mul_year_add_month, Int.add_sub_cancel]

theorem dayOfMonth_le (date : Date) : date.dayOfMonth ≤ daysOfMonth date.year date.month :=
  (exists_hasCivil_iff.mp ⟨date, rfl, rfl, rfl⟩).2.2.2

/--
Whether a date lies a number of months after another one, on the same day of the
month, or on the last day of its month if that has no such day.
-/
def IsMonthsAfter (later date : Date) (count : Int) : Prop :=
  12 * later.year + later.month = 12 * date.year + date.month + count ∧
    later.dayOfMonth = min date.dayOfMonth (daysOfMonth later.year later.month)

/-- There is one such date, the one at which the arithmetic on numbers arrives. -/
theorem isMonthsAfter_iff :
    later.IsMonthsAfter date count ↔ later.number = addMonths date.number count := by
  rw [IsMonthsAfter, twelve_mul_year_add_month, twelve_mul_year_add_month, daysOfMonth_eq]
  unfold dayOfMonth
  constructor
  · rintro ⟨months, days⟩
    have target : monthOf later.number = monthOf date.number + count := by omega
    rw [target] at days
    simp only [addMonths]
    omega
  · intro moved
    have target := monthOf_addMonths date.number count
    rw [← moved] at target
    simp only [addMonths] at moved
    rw [target]
    omega

/-- Whether two dates lie in the same month, the first of them no later than the second. -/
structure NoLaterInMonth (first second : Date) : Prop where
  year : first.year = second.year
  month : first.month = second.month
  dayOfMonth : first.dayOfMonth ≤ second.dayOfMonth

namespace IsMonthsAfter

/-- Two moves by months end in the same month as one, but may end on an earlier day of it. -/
theorem of_twice (first : middle.IsMonthsAfter date count)
    (second : twice.IsMonthsAfter middle further)
    (atOnce : once.IsMonthsAfter date (count + further)) :
    twice.NoLaterInMonth once ∧ (date.dayOfMonth ≤ 28 → twice = once) := by
  obtain ⟨firstMonths, firstDay⟩ := first
  obtain ⟨secondMonths, secondDay⟩ := second
  obtain ⟨onceMonths, onceDay⟩ := atOnce
  have twiceBounds := twice.month_bounds
  have onceBounds := once.month_bounds
  have years : twice.year = once.year := by omega
  have months : twice.month = once.month := by omega
  rw [years, months] at secondDay
  refine ⟨⟨years, months, by omega⟩, fun early => ?_⟩
  -- Every month has 28 days, so that nothing is lost on the way.
  have long := (monthLength_bounds (monthOf middle.number)).1
  rw [← daysOfMonth_eq] at long
  have days : twice.dayOfMonth = once.dayOfMonth := by omega
  exact HasCivil.unique ⟨rfl, rfl, rfl⟩ ⟨years, months, days⟩

/-- A move by months is undone by the move back unless the month between is too short. -/
theorem back_iff (first : middle.IsMonthsAfter date count) :
    date.IsMonthsAfter middle (-count) ↔
      date.dayOfMonth ≤ daysOfMonth middle.year middle.month := by
  obtain ⟨months, day⟩ := first
  constructor
  · rintro ⟨_, sameDay⟩
    omega
  · intro fits
    have held := date.dayOfMonth_le
    exact ⟨by omega, by omega⟩

end IsMonthsAfter

end Calendar.Date

/-- A count of nanoseconds is told by its day and its time of day. -/
theorem Calendar.eq_of_day_eq {first second : Int} (days : first / dayLength = second / dayLength)
    (times : first % dayLength = second % dayLength) : first = second := by
  unfold dayLength at days times
  omega

/-- Whether a count of nanoseconds lies a number of months after another one, at the same time of day. -/
def Calendar.LiesMonthsAfter (target start months : Int) : Prop :=
  (Date.mk (target / dayLength)).IsMonthsAfter ⟨start / dayLength⟩ months
    ∧ target % dayLength = start % dayLength

theorem Measure.eq_shift_months_iff {size count start target : Int} :
    target = (Measure.months size).shift count start ↔ LiesMonthsAfter target start (count * size) := by
  have calendar : (Measure.months size).IsCalendar := trivial
  have lands := Measure.shift_ediv_dayLength calendar count start
  have keeps := Measure.shift_emod_dayLength calendar count start
  rw [LiesMonthsAfter, Date.isMonthsAfter_iff]
  constructor
  · rintro rfl
    exact ⟨lands, keeps⟩
  · rintro ⟨days, times⟩
    exact eq_of_day_eq (Eq.trans days lands.symm) (times.trans keeps.symm)

end TimeRange
