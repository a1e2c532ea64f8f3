import TimeRange.Calendar.Convention
import TimeRange.Calendar.Instant

/-!
# Grids

A grid cuts the integers into buckets that follow one another and numbers them.
Seconds, days, weeks, months and fiscal years are all grids: on the counts of
nanoseconds that a wall clock shows, on the numbers of days, or on the numbers
of months. A grid of longer buckets comes from one of shorter buckets by
grouping, and rounding down and up is done once for all of them.

The main statements are `Grid.le_floor` and `Grid.ceiling_le`, that no bucket
starts between a number and what it is rounded to, and `index_shift`, that a
move by a number of units on the calendar is a move by as many buckets,
whatever the lengths of the months.
-/

namespace TimeRange.Calendar

/-- The first days of a month are kept by a move by months, since every month has them. -/
theorem addMonths_monthStart_add (month count : Int) {days : Int} (first : 0 ≤ days)
    (last : days < 28) : addMonths (monthStart month + days) count = monthStart (month + count) + days := by
  have here := monthLength_bounds month
  have there := monthLength_bounds (month + count)
  have held : monthOf (monthStart month + days) = month := by
    apply monthOf_eq <;> simp only [monthLength] at here <;> omega
  simp only [addMonths, held]
  omega

/-- A division of the integers into numbered buckets, each of which holds at least one integer. -/
structure Grid where
  /-- The first integer of a bucket. -/
  start : Int → Int
  /-- The number of the bucket that holds an integer. -/
  index : Int → Int
  start_le_iff : ∀ {bucket value : Int}, start bucket ≤ value ↔ bucket ≤ index value
  index_start : ∀ bucket : Int, index (start bucket) = bucket

namespace Grid

def floor (grid : Grid) (value : Int) : Int :=
  grid.start (grid.index value)

/-- The start of the bucket that lies a number of buckets after the one that holds an integer. -/
def after (grid : Grid) (count value : Int) : Int :=
  grid.start (grid.index value + count)

def Starts (grid : Grid) (value : Int) : Prop :=
  grid.floor value = value

instance (grid : Grid) (value : Int) : Decidable (grid.Starts value) :=
  inferInstanceAs (Decidable (_ = _))

/-- The integer if a bucket starts there, otherwise the start of the next bucket. -/
def ceiling (grid : Grid) (value : Int) : Int :=
  if grid.Starts value then value else grid.after 1 value

variable (grid : Grid)

theorem index_mono {first last : Int} (ordered : first ≤ last) :
    grid.index first ≤ grid.index last :=
  grid.start_le_iff.mp (Int.le_trans (grid.start_le_iff.mpr (Int.le_refl _)) ordered)

theorem start_le_start_iff {first last : Int} : grid.start first ≤ grid.start last ↔ first ≤ last := by
  rw [grid.start_le_iff, grid.index_start]

theorem floor_le (value : Int) : grid.floor value ≤ value :=
  grid.start_le_iff.mpr (Int.le_refl _)

theorem lt_after_one (value : Int) : value < grid.after 1 value := by
  apply Int.not_le.mp
  intro below
  have bucket := grid.start_le_iff.mp below
  omega

theorem after_zero (value : Int) : grid.after 0 value = grid.floor value := by
  unfold after floor
  rw [Int.add_zero]

theorem starts_start (bucket : Int) : grid.Starts (grid.start bucket) := by
  unfold Starts floor
  rw [grid.index_start]

theorem starts_floor (value : Int) : grid.Starts (grid.floor value) :=
  grid.starts_start _

theorem starts_after (count value : Int) : grid.Starts (grid.after count value) :=
  grid.starts_start _

theorem floor_mono {first last : Int} (ordered : first ≤ last) :
    grid.floor first ≤ grid.floor last :=
  grid.start_le_start_iff.mpr (grid.index_mono ordered)

theorem after_mono {first last : Int} (ordered : first ≤ last) (value : Int) :
    grid.after first value ≤ grid.after last value :=
  grid.start_le_start_iff.mpr (Int.add_le_add_left ordered _)

theorem le_ceiling (value : Int) : value ≤ grid.ceiling value := by
  unfold ceiling
  split
  · exact Int.le_refl _
  · exact Int.le_of_lt (grid.lt_after_one value)

theorem starts_ceiling (value : Int) : grid.Starts (grid.ceiling value) := by
  unfold ceiling
  split
  · assumption
  · exact grid.starts_after 1 value

variable {grid}

theorem le_floor {start value : Int} (starts : grid.Starts start) (below : start ≤ value) :
    start ≤ grid.floor value := by
  have rounded := grid.floor_mono below
  rwa [starts] at rounded

theorem after_one_le {start value : Int} (starts : grid.Starts start) (above : value < start) :
    grid.after 1 value ≤ start := by
  have later : grid.index value < grid.index start := by
    apply Int.not_le.mp
    intro same
    have bound := grid.start_le_start_iff.mpr same
    have first : grid.start (grid.index start) = start := starts
    have below : grid.start (grid.index value) ≤ value := grid.floor_le value
    omega
  rw [← starts]
  exact grid.start_le_start_iff.mpr later

/-- One step further is the same bucket or the next one. -/
theorem index_add_one (grid : Grid) (value : Int) :
    grid.index (value + 1) = grid.index value ∨ grid.index (value + 1) = grid.index value + 1 := by
  have forward := grid.index_mono (show value ≤ value + 1 by omega)
  have reached := grid.lt_after_one value
  unfold after at reached
  have bound : ¬ grid.index value + 2 ≤ grid.index (value + 1) := by
    intro skipped
    have started := grid.start_le_iff.mpr skipped
    have apart : grid.start (grid.index value + 1) < grid.start (grid.index value + 2) := by
      apply Int.not_le.mp
      rw [grid.start_le_start_iff]
      omega
    omega
  omega

theorem ceiling_le {start value : Int} (starts : grid.Starts start) (above : value ≤ start) :
    grid.ceiling value ≤ start := by
  unfold ceiling
  split
  · exact above
  · rename_i inside
    have strictly : value ≠ start := fun same => inside (same ▸ starts)
    exact after_one_le starts (by omega)

theorem ceiling_mono (grid : Grid) {first last : Int} (ordered : first ≤ last) :
    grid.ceiling first ≤ grid.ceiling last :=
  ceiling_le (grid.starts_ceiling last) (Int.le_trans ordered (grid.le_ceiling last))

theorem ceiling_eq_self_iff {value : Int} : grid.ceiling value = value ↔ grid.Starts value := by
  constructor
  · intro same
    rw [← same]
    exact grid.starts_ceiling value
  · intro starts
    unfold ceiling
    rw [if_pos starts]

/-! ## Grids of one length, and grouped grids -/

/-- Buckets of one size, one of which starts at the phase. -/
def uniform (size phase : Int) (positive : 0 < size) : Grid where
  start bucket := phase + bucket * size
  index value := (value - phase) / size
  start_le_iff := by
    intro bucket value
    rw [Int.le_ediv_iff_mul_le positive]
    omega
  index_start := by
    intro bucket
    rw [show phase + bucket * size - phase = bucket * size by omega,
      Int.mul_ediv_cancel _ (Int.ne_of_gt positive)]

theorem index_uniform_add {size : Int} (positive : 0 < size) (phase value count : Int) :
    (uniform size phase positive).index (value + count * size)
      = (uniform size phase positive).index value + count := by
  simp only [uniform]
  rw [show value + count * size - phase = value - phase + count * size by omega,
    Int.add_mul_ediv_right _ _ (Int.ne_of_gt positive)]

theorem start_uniform_add {size : Int} (positive : 0 < size) (phase bucket count : Int) :
    (uniform size phase positive).start bucket + count * size
      = (uniform size phase positive).start (bucket + count) := by
  simp only [uniform]
  rw [Int.add_mul, Int.add_assoc]

theorem floor_uniform {size : Int} (positive : 0 < size) (phase value : Int) :
    (uniform size phase positive).floor value = alignDown size phase value := by
  have split := Int.mul_ediv_add_emod (value - phase) size
  rw [Int.mul_comm] at split
  simp only [floor, uniform, alignDown]
  omega

theorem starts_uniform_iff {size : Int} (positive : 0 < size) (phase value : Int) :
    (uniform size phase positive).Starts value ↔ (value - phase) % size = 0 := by
  unfold Starts
  rw [floor_uniform, alignDown]
  omega

/-- The grid whose buckets are groups of the buckets of a finer one, which `groups` cuts by their numbers. -/
def grouped (fine groups : Grid) : Grid where
  start bucket := fine.start (groups.start bucket)
  index value := groups.index (fine.index value)
  start_le_iff := fine.start_le_iff.trans groups.start_le_iff
  index_start := by
    intro bucket
    rw [fine.index_start, groups.index_start]

theorem floor_grouped (fine groups : Grid) (value : Int) :
    (fine.grouped groups).floor value = fine.start (groups.floor (fine.index value)) :=
  rfl

theorem starts_grouped_iff (fine groups : Grid) (value : Int) :
    (fine.grouped groups).Starts value ↔ fine.Starts value ∧ groups.Starts (fine.index value) := by
  constructor
  · intro starts
    unfold Starts at starts
    rw [floor_grouped] at starts
    have first : groups.floor (fine.index value) = fine.index value := by
      have index := congrArg fine.index starts
      rwa [fine.index_start] at index
    refine ⟨?_, first⟩
    rw [first] at starts
    exact starts
  · rintro ⟨first, second⟩
    unfold Starts
    rw [floor_grouped, second]
    exact first

/-! ## Days, months and the units of a convention -/

def days : Grid :=
  uniform dayLength 0 (by decide)

def months : Grid where
  start := monthStart
  index := monthOf
  start_le_iff := by
    intro month day
    have held := monthOf_holds day
    have below := monthStart_lt_iff month (monthOf day + 1)
    have above := monthStart_lt_iff (monthOf day) month
    omega
  index_start := monthOf_monthStart

theorem start_days (day : Int) : days.start day = day * dayLength :=
  Int.zero_add _

theorem index_days (nanoseconds : Int) : days.index nanoseconds = nanoseconds / dayLength := by
  simp only [days, uniform, Int.sub_zero]

theorem starts_days_iff (nanoseconds : Int) : days.Starts nanoseconds ↔ nanoseconds % dayLength = 0 := by
  unfold days
  rw [starts_uniform_iff, Int.sub_zero]

theorem starts_months_iff (day : Int) : months.Starts day ↔ (Date.mk day).dayOfMonth = 1 := by
  simp only [Starts, floor, months, Date.dayOfMonth]
  omega

end Grid

end TimeRange.Calendar

namespace TimeRange

open Calendar

namespace Measure

def size : Measure → Int
  | .exact nanoseconds => nanoseconds
  | .days count => count
  | .months count => count

def IsCalendar : Measure → Prop
  | .exact _ => False
  | _ => True

instance : (measure : Measure) → Decidable measure.IsCalendar
  | .exact _ => inferInstanceAs (Decidable False)
  | .days _ => inferInstanceAs (Decidable True)
  | .months _ => inferInstanceAs (Decidable True)

def IsMonths : Measure → Prop
  | .months _ => True
  | _ => False

instance : (measure : Measure) → Decidable measure.IsMonths
  | .exact _ => inferInstanceAs (Decidable False)
  | .days _ => inferInstanceAs (Decidable False)
  | .months _ => inferInstanceAs (Decidable True)

/-- The day a number of steps away. An exact measure has the day itself. -/
def shiftDay (measure : Measure) (count day : Int) : Int :=
  match measure with
  | .exact _ => day
  | .days size => day + count * size
  | .months size => addMonths day (count * size)

/-- The count of nanoseconds on a wall clock a number of steps away, at the same time of day if the steps are not exact. -/
def shift (measure : Measure) (count nanoseconds : Int) : Int :=
  match measure with
  | .exact length => nanoseconds + count * length
  | measure => measure.shiftDay count (nanoseconds / dayLength) * dayLength + nanoseconds % dayLength

end Measure

theorem Measure.exists_eq_exact {measure : Measure} (exact : ¬ measure.IsCalendar) :
    ∃ length, measure = .exact length := by
  cases measure with
  | exact length => exact ⟨length, rfl⟩
  | days size => exact absurd trivial exact
  | months size => exact absurd trivial exact

theorem Measure.exists_eq_months {measure : Measure} (months : measure.IsMonths) :
    ∃ size, measure = .months size := by
  cases measure with
  | exact length => exact months.elim
  | days size => exact months.elim
  | months size => exact ⟨size, rfl⟩

theorem Measure.shift_of_isCalendar {measure : Measure} (calendar : measure.IsCalendar)
    (count nanoseconds : Int) :
    measure.shift count nanoseconds
      = measure.shiftDay count (nanoseconds / dayLength) * dayLength + nanoseconds % dayLength := by
  cases measure with
  | exact length => exact calendar.elim
  | days size => rfl
  | months size => rfl

theorem Measure.shift_ediv_dayLength {measure : Measure} (calendar : measure.IsCalendar)
    (count nanoseconds : Int) :
    measure.shift count nanoseconds / dayLength = measure.shiftDay count (nanoseconds / dayLength) := by
  rw [Measure.shift_of_isCalendar calendar]
  unfold dayLength
  omega

theorem Measure.shift_emod_dayLength {measure : Measure} (calendar : measure.IsCalendar)
    (count nanoseconds : Int) :
    measure.shift count nanoseconds % dayLength = nanoseconds % dayLength := by
  rw [Measure.shift_of_isCalendar calendar]
  unfold dayLength
  omega

theorem Measure.shift_days (size count nanoseconds : Int) :
    (Measure.days size).shift count nanoseconds = nanoseconds + count * size * dayLength := by
  have split := Int.mul_ediv_add_emod nanoseconds dayLength
  have calendar : (Measure.days size).IsCalendar := trivial
  rw [Measure.shift_of_isCalendar calendar]
  simp only [Measure.shiftDay]
  rw [Int.add_mul, Int.mul_comm (nanoseconds / dayLength)]
  omega

theorem TimeUnit.measure_size_pos (unit : TimeUnit) : 0 < unit.measure.size := by
  cases unit <;> decide

/-- An exact unit is an hour at most. -/
theorem TimeUnit.length_bounds {unit : TimeUnit} {length : Int} (exact : unit.measure = .exact length) :
    0 < length ∧ length ≤ 3600 * secondLength := by
  cases unit <;> cases exact <;> decide

namespace Calendar.Convention

def dateGridOf (convention : Convention) : (measure : Measure) → 0 < measure.size → Grid
  | .exact _, _ => .uniform 1 0 (by decide)
  | .days size, positive => .uniform size convention.weekPhase positive
  | .months size, positive => Grid.months.grouped (.uniform size convention.yearPhase positive)

/-- The buckets of a measure on the counts of nanoseconds of a wall clock. -/
def gridOf (convention : Convention) : (measure : Measure) → 0 < measure.size → Grid
  | .exact length, positive => .uniform length 0 positive
  | measure, positive => Grid.days.grouped (convention.dateGridOf measure positive)

def dateGrid (convention : Convention) (unit : TimeUnit) : Grid :=
  convention.dateGridOf unit.measure unit.measure_size_pos

def grid (convention : Convention) (unit : TimeUnit) : Grid :=
  convention.gridOf unit.measure unit.measure_size_pos

variable (convention : Convention)

theorem gridOf_of_isCalendar {measure : Measure} (calendar : measure.IsCalendar)
    (positive : 0 < measure.size) :
    convention.gridOf measure positive = Grid.days.grouped (convention.dateGridOf measure positive) := by
  cases measure with
  | exact length => exact calendar.elim
  | days size => rfl
  | months size => rfl

theorem floor_dateGridOf (measure : Measure) (positive : 0 < measure.size) (day : Int) :
    (convention.dateGridOf measure positive).floor day = convention.bucketStart measure day := by
  cases measure with
  | exact length =>
      have single := Grid.floor_uniform (show (0 : Int) < 1 by decide) 0 day
      rwa [alignDown, Int.emod_one, Int.sub_zero] at single
  | days size => exact Grid.floor_uniform positive _ day
  | months size => exact congrArg monthStart (Grid.floor_uniform positive _ (monthOf day))

/-- A move by a number of steps is a move by as many buckets, whatever day of its bucket a day is. -/
theorem index_shiftDay {measure : Measure} (calendar : measure.IsCalendar)
    (positive : 0 < measure.size) (count day : Int) :
    (convention.dateGridOf measure positive).index (measure.shiftDay count day)
      = (convention.dateGridOf measure positive).index day + count := by
  cases measure with
  | exact length => exact calendar.elim
  | days size => exact Grid.index_uniform_add positive _ day count
  | months size =>
      have moved := Grid.index_uniform_add positive convention.yearPhase (monthOf day) count
      rw [← monthOf_addMonths] at moved
      exact moved

/-- The first days of a bucket are moved to the first days of a bucket. -/
theorem shiftDay_start_add {measure : Measure} (calendar : measure.IsCalendar)
    (positive : 0 < measure.size) (count bucket : Int) {days : Int} (first : 0 ≤ days)
    (last : days < 28) :
    measure.shiftDay count ((convention.dateGridOf measure positive).start bucket + days)
      = (convention.dateGridOf measure positive).start (bucket + count) + days := by
  cases measure with
  | exact length => exact calendar.elim
  | days size =>
      have moved := Grid.start_uniform_add positive convention.weekPhase bucket count
      exact (Int.add_right_comm _ _ _).trans (congrArg (· + days) moved)
  | months size =>
      have moved := Grid.start_uniform_add positive convention.yearPhase bucket count
      have kept := addMonths_monthStart_add
        ((Grid.uniform size convention.yearPhase positive).start bucket) (count * size) first last
      exact kept.trans (congrArg (monthStart · + days) moved)

/-- The first four weeks of a bucket are moved to the first four weeks of a bucket. -/
theorem shift_start_add {measure : Measure} (calendar : measure.IsCalendar)
    (positive : 0 < measure.size) (count bucket : Int) {later : Int} (first : 0 ≤ later)
    (last : later < 28 * dayLength) :
    measure.shift count ((convention.dateGridOf measure positive).start bucket * dayLength + later)
      = (convention.dateGridOf measure positive).start (bucket + count) * dayLength + later := by
  generalize started : (convention.dateGridOf measure positive).start bucket = start
  have split : (start * dayLength + later) / dayLength = start + later / dayLength ∧
      (start * dayLength + later) % dayLength = later % dayLength := by
    unfold dayLength
    omega
  have within : 0 ≤ later / dayLength ∧ later / dayLength < 28 := by
    unfold dayLength at last ⊢
    omega
  rw [Measure.shift_of_isCalendar calendar, split.1, split.2, ← started,
    shiftDay_start_add convention calendar positive count bucket within.1 within.2]
  unfold dayLength
  omega

/-- A move by a number of steps is a move by as many buckets, wherever in its bucket a wall clock is. -/
theorem index_shift (measure : Measure) (positive : 0 < measure.size) (count nanoseconds : Int) :
    (convention.gridOf measure positive).index (measure.shift count nanoseconds)
      = (convention.gridOf measure positive).index nanoseconds + count := by
  by_cases calendar : measure.IsCalendar
  · rw [gridOf_of_isCalendar convention calendar]
    simp only [Grid.grouped, Grid.index_days]
    rw [Measure.shift_ediv_dayLength calendar, index_shiftDay convention calendar]
  · obtain ⟨length, rfl⟩ := Measure.exists_eq_exact calendar
    exact Grid.index_uniform_add positive 0 nanoseconds count

/-- The start of a bucket is moved to the start of a bucket. -/
theorem shift_start (measure : Measure) (positive : 0 < measure.size) (count bucket : Int) :
    measure.shift count ((convention.gridOf measure positive).start bucket)
      = (convention.gridOf measure positive).start (bucket + count) := by
  by_cases calendar : measure.IsCalendar
  · have moved := shift_start_add convention calendar positive count bucket (Int.le_refl 0) (by decide)
    rw [gridOf_of_isCalendar convention calendar]
    simpa only [Grid.grouped, Grid.start_days, Int.add_zero] using moved
  · obtain ⟨length, rfl⟩ := Measure.exists_eq_exact calendar
    exact Grid.start_uniform_add positive _ bucket count

section Unit

variable {unit : TimeUnit}

theorem index_grid_shift (count nanoseconds : Int) :
    (convention.grid unit).index (unit.measure.shift count nanoseconds)
      = (convention.grid unit).index nanoseconds + count :=
  index_shift convention _ _ _ _

theorem shift_grid_start (count bucket : Int) :
    unit.measure.shift count ((convention.grid unit).start bucket)
      = (convention.grid unit).start (bucket + count) :=
  shift_start convention _ _ _ _

theorem shift_dateGrid_start_add (calendar : unit.measure.IsCalendar) (count bucket : Int)
    {later : Int} (first : 0 ≤ later) (last : later < 28 * dayLength) :
    unit.measure.shift count ((convention.dateGrid unit).start bucket * dayLength + later)
      = (convention.dateGrid unit).start (bucket + count) * dayLength + later :=
  shift_start_add convention calendar _ _ _ first last

theorem start_grid_of_isCalendar (calendar : unit.measure.IsCalendar) (bucket : Int) :
    (convention.grid unit).start bucket = (convention.dateGrid unit).start bucket * dayLength := by
  unfold grid dateGrid
  rw [gridOf_of_isCalendar convention calendar]
  exact Grid.start_days _

/-- A bucket of days or months holds the days from the first one on as a whole. -/
theorem index_grid_of_isCalendar (calendar : unit.measure.IsCalendar) (nanoseconds : Int) :
    (convention.grid unit).index nanoseconds
      = (convention.dateGrid unit).index (nanoseconds / dayLength) := by
  unfold grid dateGrid
  rw [gridOf_of_isCalendar convention calendar, ← Grid.index_days]
  rfl

theorem floor_grid_of_isCalendar (calendar : unit.measure.IsCalendar) (nanoseconds : Int) :
    (convention.grid unit).floor nanoseconds
      = (convention.dateGrid unit).floor (nanoseconds / dayLength) * dayLength := by
  unfold Grid.floor
  rw [start_grid_of_isCalendar convention calendar, index_grid_of_isCalendar convention calendar]

theorem floor_grid_of_exact {length : Int} (exact : unit.measure = .exact length)
    (nanoseconds : Int) :
    (convention.grid unit).floor nanoseconds = nanoseconds - nanoseconds % length := by
  unfold grid
  generalize unit.measure_size_pos = positive
  revert positive
  rw [exact]
  intro positive
  have rounded := Grid.floor_uniform positive 0 nanoseconds
  rwa [alignDown, Int.sub_zero] at rounded

end Unit

end Calendar.Convention

end TimeRange
