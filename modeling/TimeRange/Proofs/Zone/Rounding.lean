import TimeRange.Proofs.Calendar.Boundary
import TimeRange.Proofs.Zone.BoundedMoves
import TimeRange.Zone.Bucket

/-!
# Rounding and moving on the clocks of a zone

Rounding and moving an instant are said through the grids of a convention. In
every zone the units from a day on work on dates, and the zone only locates
the midnight or the wall-clock time that results.

In a zone of one offset the wall clock runs along with Universal Time, and
rounding is rounding on the grid. The main statement is
`truncate?_ceiling?_nearest_boundary`.
-/

namespace TimeRange

open Calendar

theorem Calendar.Instant.eq_of_nanoseconds_eq {first second : Instant}
    (same : first.nanoseconds = second.nanoseconds) : first = second := by
  cases first
  cases second
  cases same
  rfl

def Calendar.WallTime.shift? (wall : WallTime) (measure : Measure) (count : Int) : Option WallTime :=
  WallTime.ofNanoseconds? (measure.shift count wall.nanoseconds)

namespace Zone

variable {zone : Zone} {convention : Convention} {unit : TimeUnit} {instant : Instant}

theorem wallTime?_eq_some_iff {wall : WallTime} :
    zone.wallTime? instant = some wall ↔ wall.nanoseconds = zone.wallNanoseconds instant :=
  WallTime.ofNanoseconds?_eq_some_iff

theorem wallTime?_eq_none_iff :
    zone.wallTime? instant = none ↔ ¬ InCalendar (zone.wallNanoseconds instant) :=
  WallTime.ofNanoseconds?_eq_none_iff

/-- The wall clock of a zone is at the start of a bucket of a unit, if need be past the ends of the calendar. -/
def IsBoundary (zone : Zone) (convention : Convention) (unit : TimeUnit) (instant : Instant) : Prop :=
  convention.AtBoundary unit (zone.wallNanoseconds instant)

/-- The last boundary that is not after an instant. -/
def IsLastBoundary (zone : Zone) (convention : Convention) (unit : TimeUnit)
    (instant start : Instant) : Prop :=
  zone.IsBoundary convention unit start ∧ start.nanoseconds ≤ instant.nanoseconds ∧
    ∀ other, zone.IsBoundary convention unit other →
      ¬ (start.nanoseconds < other.nanoseconds ∧ other.nanoseconds ≤ instant.nanoseconds)

def IsFirstBoundary (zone : Zone) (convention : Convention) (unit : TimeUnit)
    (instant stop : Instant) : Prop :=
  zone.IsBoundary convention unit stop ∧ instant.nanoseconds ≤ stop.nanoseconds ∧
    ∀ other, zone.IsBoundary convention unit other →
      ¬ (instant.nanoseconds ≤ other.nanoseconds ∧ other.nanoseconds < stop.nanoseconds)

/-! ## The units from a day on -/

/-- A bucket of days or months starts where the zone locates the midnight of its first day. -/
theorem bucketStart?_of_isCalendar (calendar : unit.measure.IsCalendar) :
    zone.bucketStart? convention unit instant = (zone.wallTime? instant).bind fun wall =>
      (WallTime.midnight? ((convention.dateGrid unit).floor wall.day)).bind zone.locate? := by
  simp only [bucketStart?, Convention.dateGrid, Convention.floor_dateGridOf]
  generalize unit.measure = measure at calendar
  cases measure with
  | exact length => exact calendar.elim
  | days size => rfl
  | months size => rfl

/-- A move by days or months is made on the wall clock, and the result is located. -/
theorem shift?_of_isCalendar (calendar : unit.measure.IsCalendar) (count : Int) :
    zone.shift? unit count instant = (zone.wallTime? instant).bind fun wall =>
      (wall.shift? unit.measure count).bind zone.locate? := by
  unfold shift? WallTime.shift?
  generalize unit.measure = measure at calendar
  cases measure with
  | exact length => exact calendar.elim
  | days size =>
      simp only [shiftBy?_days, Measure.shift_days]
      rfl
  | months size =>
      simp only [shiftBy?_months, WallTime.moveMonths?_eq]
      rfl

/-! ## The units up to an hour -/

/-- A second, minute or hour starts as long before an instant as has passed of it on the wall clock. -/
theorem bucketStart?_of_exact_eq_some_iff {length : Int} (exact : unit.measure = .exact length)
    {start : Instant} :
    zone.bucketStart? convention unit instant = some start ↔
      InCalendar (zone.wallNanoseconds instant)
        ∧ start.nanoseconds = instant.nanoseconds - zone.wallNanoseconds instant % length := by
  simp only [bucketStart?, exact, Option.bind_eq_bind, Option.bind_eq_some_iff,
    wallTime?_eq_some_iff, Instant.ofNanoseconds?_eq_some_iff]
  constructor
  · rintro ⟨wall, read, startAt⟩
    exact ⟨read ▸ wall.inCalendar, read ▸ startAt⟩
  · rintro ⟨inside, startAt⟩
    exact ⟨⟨_, inside⟩, rfl, startAt⟩

theorem shift?_of_exact {length : Int} (exact : unit.measure = .exact length) (count : Int) :
    zone.shift? unit count instant
      = Instant.ofNanoseconds? (instant.nanoseconds + count * length) := by
  rw [shift?, exact, shiftBy?_exact]

theorem shift?_of_exact_eq_some_iff {length : Int} (exact : unit.measure = .exact length)
    {count : Int} {moved : Instant} :
    zone.shift? unit count instant = some moved ↔
      moved.nanoseconds = instant.nanoseconds + count * length := by
  rw [shift?_of_exact exact, Instant.ofNanoseconds?_eq_some_iff]

/-! ## Zones of one offset -/

section Fixed

variable {offset : Int}

theorem wallNanoseconds_fixed (offset : Int) (instant : Instant) :
    (fixed offset).wallNanoseconds instant = instant.nanoseconds + offset * secondLength :=
  rfl

theorem wallNanoseconds_fixed_le_iff (offset : Int) {first last : Instant} :
    (fixed offset).wallNanoseconds first ≤ (fixed offset).wallNanoseconds last ↔
      first.nanoseconds ≤ last.nanoseconds :=
  Int.add_le_add_iff_right _

theorem wallNanoseconds_fixed_lt_iff (offset : Int) {first last : Instant} :
    (fixed offset).wallNanoseconds first < (fixed offset).wallNanoseconds last ↔
      first.nanoseconds < last.nanoseconds :=
  Int.add_lt_add_iff_right _

theorem wallNanoseconds_fixed_inj (offset : Int) {first last : Instant} :
    (fixed offset).wallNanoseconds first = (fixed offset).wallNanoseconds last ↔ first = last :=
  ⟨fun same => Instant.eq_of_nanoseconds_eq ((Int.add_left_inj _).mp same), congrArg _⟩

theorem locate?_fixed_eq_some_iff {wall : WallTime} :
    (fixed offset).locate? wall = some instant ↔
      (fixed offset).wallNanoseconds instant = wall.nanoseconds := by
  rw [locate?_fixed, Instant.ofNanoseconds?_eq_some_iff, wallNanoseconds_fixed]
  omega

theorem inCalendar_floor_of_exact {length : Int} (exact : unit.measure = .exact length)
    {nanoseconds : Int} (inside : InCalendar nanoseconds) :
    InCalendar ((convention.grid unit).floor nanoseconds) := by
  have lengths : length = 1000000000 ∨ length = 60000000000 ∨ length = 3600000000000 := by
    cases unit <;> cases exact <;> simp
  rw [Convention.floor_grid_of_exact convention exact]
  unfold InCalendar at inside ⊢
  rcases lengths with rfl | rfl | rfl <;> omega

/-- Rounding down is rounding the wall clock down, which fails where that is or gets out of the calendar. -/
theorem truncate?_fixed_eq_some_iff {start : Instant} :
    (fixed offset).truncate? convention (some unit) instant = some start ↔
      InCalendar ((fixed offset).wallNanoseconds instant)
        ∧ InCalendar ((convention.grid unit).floor ((fixed offset).wallNanoseconds instant))
        ∧ (fixed offset).wallNanoseconds start
          = (convention.grid unit).floor ((fixed offset).wallNanoseconds instant) := by
  change (fixed offset).bucketStart? convention unit instant = some start ↔ _
  by_cases calendar : unit.measure.IsCalendar
  · rw [bucketStart?_of_isCalendar calendar,
      Convention.floor_grid_of_isCalendar convention calendar]
    constructor
    · intro found
      simp only [Option.bind_eq_some_iff] at found
      obtain ⟨wall, read, midnight, begun, located⟩ := found
      rw [wallTime?_eq_some_iff] at read
      rw [WallTime.midnight?, WallTime.ofNanoseconds?_eq_some_iff, WallTime.day, read] at begun
      rw [locate?_fixed_eq_some_iff, begun] at located
      exact ⟨read ▸ wall.inCalendar, begun ▸ midnight.inCalendar, located⟩
    · rintro ⟨inside, stays, same⟩
      rw [Option.bind_eq_some_iff]
      refine ⟨⟨_, inside⟩, wallTime?_eq_some_iff.mpr rfl, ?_⟩
      rw [Option.bind_eq_some_iff]
      exact ⟨⟨_, stays⟩, WallTime.ofNanoseconds?_eq_some_iff.mpr rfl,
        locate?_fixed_eq_some_iff.mpr same⟩
  · obtain ⟨length, exact⟩ := Measure.exists_eq_exact calendar
    rw [bucketStart?_of_exact_eq_some_iff exact]
    constructor
    · rintro ⟨inside, startAt⟩
      refine ⟨inside, inCalendar_floor_of_exact exact inside, ?_⟩
      rw [Convention.floor_grid_of_exact convention exact, wallNanoseconds_fixed, startAt,
        wallNanoseconds_fixed]
      omega
    · rintro ⟨inside, _, same⟩
      rw [Convention.floor_grid_of_exact convention exact] at same
      refine ⟨inside, ?_⟩
      rw [wallNanoseconds_fixed, wallNanoseconds_fixed] at same
      rw [wallNanoseconds_fixed]
      omega

/-- A move is a move of the wall clock. Only days and months need a wall clock that the calendar covers. -/
theorem shift?_fixed_eq_some_iff {count : Int} {moved : Instant} :
    (fixed offset).shift? unit count instant = some moved ↔
      (unit.measure.IsCalendar → InCalendar ((fixed offset).wallNanoseconds instant)
          ∧ InCalendar ((fixed offset).wallNanoseconds moved))
        ∧ (fixed offset).wallNanoseconds moved
          = unit.measure.shift count ((fixed offset).wallNanoseconds instant) := by
  by_cases calendar : unit.measure.IsCalendar
  · rw [shift?_of_isCalendar calendar]
    constructor
    · intro found
      simp only [Option.bind_eq_some_iff] at found
      obtain ⟨wall, read, landed, shifted, located⟩ := found
      rw [wallTime?_eq_some_iff] at read
      rw [WallTime.shift?, WallTime.ofNanoseconds?_eq_some_iff, read] at shifted
      rw [locate?_fixed_eq_some_iff] at located
      refine ⟨fun _ => ⟨read ▸ wall.inCalendar, ?_⟩, located.trans shifted⟩
      rw [located]
      exact landed.inCalendar
    · rintro ⟨covered, same⟩
      obtain ⟨inside, stays⟩ := covered calendar
      rw [Option.bind_eq_some_iff]
      refine ⟨⟨_, inside⟩, wallTime?_eq_some_iff.mpr rfl, ?_⟩
      rw [Option.bind_eq_some_iff]
      exact ⟨⟨_, stays⟩, WallTime.ofNanoseconds?_eq_some_iff.mpr same,
        locate?_fixed_eq_some_iff.mpr rfl⟩
  · obtain ⟨length, exact⟩ := Measure.exists_eq_exact calendar
    rw [shift?_of_exact_eq_some_iff exact, exact]
    simp only [Measure.shift, wallNanoseconds_fixed, Measure.IsCalendar, false_implies, true_and]
    omega

/-- Rounding up is rounding the wall clock up. A day or a month cannot end outside the calendar. -/
theorem of_ceiling?_fixed {stop : Instant}
    (found : (fixed offset).ceiling? convention (some unit) instant = some stop) :
    InCalendar ((fixed offset).wallNanoseconds instant)
      ∧ (unit.measure.IsCalendar → InCalendar ((fixed offset).wallNanoseconds stop))
      ∧ (fixed offset).wallNanoseconds stop
        = (convention.grid unit).ceiling ((fixed offset).wallNanoseconds instant) := by
  change (fixed offset).bucketCeiling? convention unit instant = some stop at found
  simp only [bucketCeiling?, Option.bind_eq_bind, Option.bind_eq_some_iff] at found
  obtain ⟨start, rounded, found⟩ := found
  obtain ⟨inside, _, sameFloor⟩ := truncate?_fixed_eq_some_iff.mp rounded
  refine ⟨inside, ?_⟩
  split at found
  · rename_i starts
    cases found
    rw [starts] at sameFloor
    exact ⟨fun _ => inside, (Grid.ceiling_eq_self_iff.mpr sameFloor.symm).symm⟩
  · rename_i within
    have notStart : ¬ (convention.grid unit).Starts ((fixed offset).wallNanoseconds instant) := by
      intro starts
      rw [starts, wallNanoseconds_fixed_inj] at sameFloor
      exact within sameFloor
    obtain ⟨covered, same⟩ := shift?_fixed_eq_some_iff.mp found
    refine ⟨fun calendar => (covered calendar).2, ?_⟩
    rw [same, sameFloor, Grid.ceiling, if_neg notStart]
    exact Convention.shift_grid_start convention _ _

/-- An instant at which a bucket starts is rounded to itself, if the calendar covers its wall clock. -/
theorem truncate?_fixed_eq_self_iff :
    (fixed offset).truncate? convention (some unit) instant = some instant ↔
      (fixed offset).IsBoundary convention unit instant
        ∧ InCalendar ((fixed offset).wallNanoseconds instant) := by
  rw [truncate?_fixed_eq_some_iff, IsBoundary, Convention.atBoundary_iff_starts]
  constructor
  · rintro ⟨inside, _, same⟩
    exact ⟨same.symm, inside⟩
  · rintro ⟨starts, inside⟩
    exact ⟨inside, by rwa [starts], starts.symm⟩

theorem ceiling?_fixed_eq_self_iff :
    (fixed offset).ceiling? convention (some unit) instant = some instant ↔
      (fixed offset).IsBoundary convention unit instant
        ∧ InCalendar ((fixed offset).wallNanoseconds instant) := by
  constructor
  · intro found
    obtain ⟨inside, _, same⟩ := of_ceiling?_fixed found
    refine ⟨?_, inside⟩
    rw [IsBoundary, Convention.atBoundary_iff_starts]
    exact Grid.ceiling_eq_self_iff.mp same.symm
  · intro boundary
    exact bucketCeiling?_of_start (truncate?_fixed_eq_self_iff.mpr boundary)

theorem isLastBoundary_fixed {start : Instant}
    (same : (fixed offset).wallNanoseconds start
      = (convention.grid unit).floor ((fixed offset).wallNanoseconds instant)) :
    (fixed offset).IsLastBoundary convention unit instant start := by
  refine ⟨?_, ?_, ?_⟩
  · rw [IsBoundary, Convention.atBoundary_iff_starts, same]
    exact Grid.starts_floor _ _
  · have below := (convention.grid unit).floor_le ((fixed offset).wallNanoseconds instant)
    rwa [← same, wallNanoseconds_fixed_le_iff] at below
  · rintro other starts ⟨after, notAfter⟩
    rw [IsBoundary, Convention.atBoundary_iff_starts] at starts
    have bound := Grid.le_floor starts ((wallNanoseconds_fixed_le_iff offset).mpr notAfter)
    rw [← same, wallNanoseconds_fixed_le_iff] at bound
    exact Int.not_lt.mpr bound after

theorem isFirstBoundary_fixed {stop : Instant}
    (same : (fixed offset).wallNanoseconds stop
      = (convention.grid unit).ceiling ((fixed offset).wallNanoseconds instant)) :
    (fixed offset).IsFirstBoundary convention unit instant stop := by
  refine ⟨?_, ?_, ?_⟩
  · rw [IsBoundary, Convention.atBoundary_iff_starts, same]
    exact Grid.starts_ceiling _ _
  · have above := (convention.grid unit).le_ceiling ((fixed offset).wallNanoseconds instant)
    rwa [← same, wallNanoseconds_fixed_le_iff] at above
  · rintro other starts ⟨notBefore, before⟩
    rw [IsBoundary, Convention.atBoundary_iff_starts] at starts
    have bound := Grid.ceiling_le starts ((wallNanoseconds_fixed_le_iff offset).mpr notBefore)
    rw [← same, wallNanoseconds_fixed_le_iff] at bound
    exact Int.not_lt.mpr bound before

theorem truncate?_fixed_mono {first last firstStart lastStart : Instant}
    (ordered : first.nanoseconds ≤ last.nanoseconds)
    (firstFound : (fixed offset).truncate? convention (some unit) first = some firstStart)
    (lastFound : (fixed offset).truncate? convention (some unit) last = some lastStart) :
    firstStart.nanoseconds ≤ lastStart.nanoseconds := by
  have rounded := (convention.grid unit).floor_mono ((wallNanoseconds_fixed_le_iff offset).mpr ordered)
  rwa [← (truncate?_fixed_eq_some_iff.mp firstFound).2.2,
    ← (truncate?_fixed_eq_some_iff.mp lastFound).2.2, wallNanoseconds_fixed_le_iff] at rounded

theorem ceiling?_fixed_mono {first last firstStop lastStop : Instant}
    (ordered : first.nanoseconds ≤ last.nanoseconds)
    (firstFound : (fixed offset).ceiling? convention (some unit) first = some firstStop)
    (lastFound : (fixed offset).ceiling? convention (some unit) last = some lastStop) :
    firstStop.nanoseconds ≤ lastStop.nanoseconds := by
  have rounded :=
    (convention.grid unit).ceiling_mono ((wallNanoseconds_fixed_le_iff offset).mpr ordered)
  rwa [← (of_ceiling?_fixed firstFound).2.2, ← (of_ceiling?_fixed lastFound).2.2,
    wallNanoseconds_fixed_le_iff] at rounded

end Fixed

/--
In a zone of one offset, rounding down gives the last boundary that is not
after an instant, and rounding up the first that is not before it. Both keep
the order of instants and are idempotent, and the boundaries are the instants
that they leave as they are. An instant whose wall clock is past an end of the
calendar is not rounded at all, so that rounding up to the end of the last
second, minute or hour on the wall clock cannot be repeated. In Universal Time
there is no such instant.
-/
theorem truncate?_ceiling?_nearest_boundary (offset : Int) (convention : Convention)
    (unit : TimeUnit) :
    (∀ instant start, (fixed offset).truncate? convention (some unit) instant = some start →
        (fixed offset).IsLastBoundary convention unit instant start) ∧
      (∀ instant stop, (fixed offset).ceiling? convention (some unit) instant = some stop →
        (fixed offset).IsFirstBoundary convention unit instant stop) ∧
      (∀ first last firstStart lastStart, first.nanoseconds ≤ last.nanoseconds →
        (fixed offset).truncate? convention (some unit) first = some firstStart →
        (fixed offset).truncate? convention (some unit) last = some lastStart →
        firstStart.nanoseconds ≤ lastStart.nanoseconds) ∧
      (∀ first last firstStop lastStop, first.nanoseconds ≤ last.nanoseconds →
        (fixed offset).ceiling? convention (some unit) first = some firstStop →
        (fixed offset).ceiling? convention (some unit) last = some lastStop →
        firstStop.nanoseconds ≤ lastStop.nanoseconds) ∧
      (∀ instant start, (fixed offset).truncate? convention (some unit) instant = some start →
        (fixed offset).truncate? convention (some unit) start = some start) ∧
      (∀ instant stop, (fixed offset).ceiling? convention (some unit) instant = some stop →
        unit.measure.IsCalendar ∨ (fixed offset).wallTime? stop ≠ none →
        (fixed offset).ceiling? convention (some unit) stop = some stop) ∧
      (∀ instant, (fixed offset).wallTime? instant ≠ none →
        ((fixed offset).IsBoundary convention unit instant ↔
            (fixed offset).truncate? convention (some unit) instant = some instant) ∧
          ((fixed offset).IsBoundary convention unit instant ↔
            (fixed offset).ceiling? convention (some unit) instant = some instant)) ∧
      (∀ instant, (fixed offset).wallTime? instant = none →
        (fixed offset).truncate? convention (some unit) instant = none ∧
          (fixed offset).ceiling? convention (some unit) instant = none) ∧
      (offset = 0 → ∀ instant, (fixed offset).wallTime? instant ≠ none) := by
  have covered_iff (instant : Instant) : (fixed offset).wallTime? instant ≠ none ↔
      InCalendar ((fixed offset).wallNanoseconds instant) := by
    rw [ne_eq, wallTime?_eq_none_iff, Classical.not_not]
  refine ⟨?_, ?_, fun _ _ _ _ => truncate?_fixed_mono, fun _ _ _ _ => ceiling?_fixed_mono,
    ?_, ?_, ?_, ?_, ?_⟩
  · intro instant start found
    exact isLastBoundary_fixed (truncate?_fixed_eq_some_iff.mp found).2.2
  · intro instant stop found
    exact isFirstBoundary_fixed (of_ceiling?_fixed found).2.2
  · intro instant start found
    obtain ⟨_, stays, same⟩ := truncate?_fixed_eq_some_iff.mp found
    exact truncate?_fixed_eq_self_iff.mpr ⟨(isLastBoundary_fixed same).1, same ▸ stays⟩
  · intro instant stop found covered
    obtain ⟨_, ends, same⟩ := of_ceiling?_fixed found
    refine ceiling?_fixed_eq_self_iff.mpr ⟨(isFirstBoundary_fixed same).1, ?_⟩
    rcases covered with calendar | inside
    · exact ends calendar
    · exact (covered_iff stop).mp inside
  · intro instant covered
    have inside := (covered_iff instant).mp covered
    rw [truncate?_fixed_eq_self_iff, ceiling?_fixed_eq_self_iff, and_iff_left inside]
    exact ⟨Iff.rfl, Iff.rfl⟩
  · intro instant uncovered
    have unrounded : (fixed offset).bucketStart? convention unit instant = none := by
      simp [bucketStart?, uncovered]
    exact ⟨unrounded, by simp [ceiling?, bucketCeiling?, unrounded]⟩
  · rintro rfl instant
    rw [covered_iff, wallNanoseconds_fixed, Int.zero_mul, Int.add_zero]
    exact instant.inCalendar

/-- At 05:30, a fiscal year that starts in April holds the first of March. -/
theorem truncate?_ceiling?_nearest_boundary_of_fiscal_year :
    (fixed 19800).truncate? ⟨7, 4⟩ (some .year) ⟨1709251200000000000, by decide⟩ =
        some ⟨1680287400000000000, by decide⟩ ∧
      (fixed 19800).IsLastBoundary ⟨7, 4⟩ .year ⟨1709251200000000000, by decide⟩
        ⟨1680287400000000000, by decide⟩ := by
  have rounded : (fixed 19800).truncate? ⟨7, 4⟩ (some .year) ⟨1709251200000000000, by decide⟩ =
      some ⟨1680287400000000000, by decide⟩ := by decide
  exact ⟨rounded, (truncate?_ceiling?_nearest_boundary 19800 ⟨7, 4⟩ .year).1 _ _ rounded⟩

/--
An hour east of Universal Time, the last hour of the calendar on the wall clock
ends with an instant that is not rounded to itself, although its wall clock is
at the start of an hour.
-/
theorem ceiling?_past_the_calendar :
    ∃ instant stop : Instant,
      (fixed 3600).ceiling? .standard (some .hour) instant = some stop ∧
        (fixed 3600).IsBoundary .standard .hour stop ∧
        (fixed 3600).truncate? .standard (some .hour) stop ≠ some stop ∧
        (fixed 3600).ceiling? .standard (some .hour) stop ≠ some stop := by
  refine ⟨⟨8210266873199999999999, by decide⟩, ⟨8210266873200000000000, by decide⟩, ?_, ?_, ?_, ?_⟩
  · decide
  · unfold IsBoundary Convention.AtBoundary
    decide
  · decide
  · decide

end Zone

end TimeRange
