import TimeRange.Proofs.Calendar.MonthMoves
import TimeRange.Proofs.Zone.Rounding

/-!
# Moving an instant twice

In a zone of one offset, two moves by seconds up to weeks are one move by both
counts. Two moves by months, quarters or years lead to the same month and time of
day as one, but perhaps to an earlier day of it, since a day that the month between
lacks is lost there.

The main statement is `shift?_shift?_fixed`.
-/

namespace TimeRange

open Calendar

theorem Measure.shift_shift {measure : Measure} (regular : ¬ measure.IsMonths)
    (first second nanoseconds : Int) :
    measure.shift second (measure.shift first nanoseconds)
      = measure.shift (first + second) nanoseconds := by
  cases measure with
  | exact length =>
      simp only [shift]
      rw [Int.add_mul, Int.add_assoc]
  | days size => rw [shift_days, shift_days, shift_days, Int.add_mul, Int.add_mul, Int.add_assoc]
  | months size => exact absurd trivial regular

namespace Zone

/-- The date on the wall clocks of a zone, if need be past the ends of the calendar. -/
def localDate (zone : Zone) (instant : Instant) : Date :=
  ⟨zone.wallNanoseconds instant / dayLength⟩

def timeOfDay (zone : Zone) (instant : Instant) : Int :=
  zone.wallNanoseconds instant % dayLength

variable {offset count first second size : Int} {unit : TimeUnit}
  {instant moved once twice : Instant}

/-- The date and the time of day on the wall clock tell an instant. -/
theorem eq_of_localDate_eq
    (dates : (fixed offset).localDate once = (fixed offset).localDate twice)
    (times : (fixed offset).timeOfDay once = (fixed offset).timeOfDay twice) : once = twice :=
  (wallNanoseconds_fixed_inj offset).mp (eq_of_day_eq (congrArg Date.number dates) times)

/-- A move by months leads to a date so many months later on the wall clock, at the same time of day. -/
theorem shift?_fixed_of_months (months : unit.measure = .months size) :
    (fixed offset).shift? unit count instant = some moved ↔
      (InCalendar ((fixed offset).wallNanoseconds instant)
          ∧ InCalendar ((fixed offset).wallNanoseconds moved))
        ∧ ((fixed offset).localDate moved).IsMonthsAfter ((fixed offset).localDate instant)
            (count * size)
        ∧ (fixed offset).timeOfDay moved = (fixed offset).timeOfDay instant := by
  have calendar : unit.measure.IsCalendar := by
    rw [months]
    trivial
  rw [shift?_fixed_eq_some_iff, months, Measure.eq_shift_months_iff, ← months]
  exact and_congr_left fun _ => ⟨fun covered => covered calendar, fun covered _ => covered⟩

/-- Two moves by seconds up to weeks have the result of one, if the first has one. -/
theorem shift?_of_shift?_fixed (regular : ¬ unit.measure.IsMonths)
    (found : (fixed offset).shift? unit first instant = some moved) (second : Int) :
    (fixed offset).shift? unit second moved = (fixed offset).shift? unit (first + second) instant := by
  obtain ⟨covered, movedAt⟩ := shift?_fixed_eq_some_iff.mp found
  apply Option.ext
  intro landed
  rw [shift?_fixed_eq_some_iff, shift?_fixed_eq_some_iff, movedAt, Measure.shift_shift regular, ← movedAt]
  refine and_congr_left fun _ => forall_congr' fun calendar => ?_
  rw [and_iff_right (covered calendar).1, and_iff_right (covered calendar).2]

/-- Two moves by months lead to the same month as one, but perhaps to an earlier day. -/
theorem localDate_of_twice (months : unit.measure = .months size)
    (found : (fixed offset).shift? unit first instant = some moved)
    (foundTwice : (fixed offset).shift? unit second moved = some twice)
    (foundOnce : (fixed offset).shift? unit (first + second) instant = some once) :
    ((fixed offset).localDate twice).NoLaterInMonth ((fixed offset).localDate once) ∧
      (fixed offset).timeOfDay twice = (fixed offset).timeOfDay once ∧
      (((fixed offset).localDate instant).dayOfMonth ≤ 28 → twice = once) := by
  obtain ⟨_, firstDate, firstTime⟩ := (shift?_fixed_of_months months).mp found
  obtain ⟨_, secondDate, secondTime⟩ := (shift?_fixed_of_months months).mp foundTwice
  obtain ⟨_, onceDate, onceTime⟩ := (shift?_fixed_of_months months).mp foundOnce
  rw [Int.add_mul] at onceDate
  obtain ⟨noLater, same⟩ := firstDate.of_twice secondDate onceDate
  have times : (fixed offset).timeOfDay twice = (fixed offset).timeOfDay once :=
    (secondTime.trans firstTime).trans onceTime.symm
  exact ⟨noLater, times, fun early => eq_of_localDate_eq (same early) times⟩

/-- The move back leads home if the month between has the day of the month. -/
theorem shift?_neg_eq_some_iff (months : unit.measure = .months size)
    (found : (fixed offset).shift? unit first instant = some moved) :
    (fixed offset).shift? unit (-first) moved = some instant ↔
      ((fixed offset).localDate instant).dayOfMonth
        ≤ daysOfMonth ((fixed offset).localDate moved).year ((fixed offset).localDate moved).month := by
  obtain ⟨covered, date, time⟩ := (shift?_fixed_of_months months).mp found
  rw [shift?_fixed_of_months months, and_iff_right covered.symm, and_iff_left time.symm, Int.neg_mul]
  exact date.back_iff

/--
In a zone of one offset, a further move by seconds up to weeks has the result of a
single move by both counts. After a further move by months, quarters or years the
year, the month and the time of day are those of a single move, and the day of the
month is at most that of it, and the same if the move began by the 28th. The move
back leads home exactly if the month between has the day on which the move began.
-/
theorem shift?_shift?_fixed (offset : Int) {unit : TimeUnit} {first : Int} {instant moved : Instant}
    (found : (fixed offset).shift? unit first instant = some moved) :
    (unit ∈ [TimeUnit.second, .minute, .hour, .day, .week] → ∀ second,
        (fixed offset).shift? unit second moved
          = (fixed offset).shift? unit (first + second) instant) ∧
      (unit ∈ [TimeUnit.month, .quarter, .year] →
        (∀ second twice once, (fixed offset).shift? unit second moved = some twice →
          (fixed offset).shift? unit (first + second) instant = some once →
            ((fixed offset).localDate twice).NoLaterInMonth ((fixed offset).localDate once) ∧
              (fixed offset).timeOfDay twice = (fixed offset).timeOfDay once ∧
              (((fixed offset).localDate instant).dayOfMonth ≤ 28 → twice = once)) ∧
          ((fixed offset).shift? unit (-first) moved = some instant ↔
            ((fixed offset).localDate instant).dayOfMonth
              ≤ daysOfMonth ((fixed offset).localDate moved).year
                ((fixed offset).localDate moved).month)) := by
  constructor
  · intro listed
    have regular : ∀ unit ∈ [TimeUnit.second, .minute, .hour, .day, .week],
        ¬ unit.measure.IsMonths := by decide
    exact shift?_of_shift?_fixed (regular unit listed) found
  · intro listed
    have irregular : ∀ unit ∈ [TimeUnit.month, .quarter, .year], unit.measure.IsMonths := by decide
    obtain ⟨size, months⟩ := Measure.exists_eq_months (irregular unit listed)
    exact ⟨fun _ _ _ => localDate_of_twice months found, shift?_neg_eq_some_iff months found⟩

/--
A month after the last day of January 2024 comes the last one of February, and a
month after that the 29th of March, where two months at once lead to the 31st. A month
before the end of February comes the 29th of January, not the last.
-/
theorem shift?_shift?_of_february :
    (fixed 3600).shift? .month 1 ⟨1706695200000000000, by decide⟩
        = some ⟨1709200800000000000, by decide⟩ ∧
      (fixed 3600).shift? .month 1 ⟨1709200800000000000, by decide⟩
        = some ⟨1711706400000000000, by decide⟩ ∧
      (fixed 3600).shift? .month 2 ⟨1706695200000000000, by decide⟩
        = some ⟨1711879200000000000, by decide⟩ ∧
      ((fixed 3600).localDate ⟨1711706400000000000, by decide⟩).NoLaterInMonth
        ((fixed 3600).localDate ⟨1711879200000000000, by decide⟩) ∧
      (fixed 3600).shift? .month (-1) ⟨1709200800000000000, by decide⟩
        = some ⟨1706522400000000000, by decide⟩ ∧
      (fixed 3600).shift? .month (-1) ⟨1709200800000000000, by decide⟩
        ≠ some ⟨1706695200000000000, by decide⟩ := by
  have found : (fixed 3600).shift? .month 1 ⟨1706695200000000000, by decide⟩
      = some ⟨1709200800000000000, by decide⟩ := by decide
  have again : (fixed 3600).shift? .month 1 ⟨1709200800000000000, by decide⟩
      = some ⟨1711706400000000000, by decide⟩ := by decide
  have once : (fixed 3600).shift? .month 2 ⟨1706695200000000000, by decide⟩
      = some ⟨1711879200000000000, by decide⟩ := by decide
  obtain ⟨compare, back⟩ := (shift?_shift?_fixed 3600 found).2 (by decide)
  refine ⟨found, again, once, (compare 1 _ _ again once).1, by decide, ?_⟩
  rw [Ne, back]
  decide

end Zone

end TimeRange
