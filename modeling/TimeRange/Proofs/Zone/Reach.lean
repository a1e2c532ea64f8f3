import TimeRange.Proofs.Zone.LocalBucket

/-!
# How far a step leads

Reading the wall clock and locating a time each lead at most a day away, a move
by a number of units at most as many years of twelve long months, and rounding a
little more than a year. So a step has a result as long as there is room for it
before the ends of the calendar, and the room that is needed is known beforehand.

The main statements are `Steady.shift?_reaches`, `Steady.truncate?_reaches` and
`Steady.ceiling?_reaches`.
-/

namespace TimeRange

namespace Calendar

/-! ## Room -/

/-- Whether a count of nanoseconds amounts to at most a number of days, in either direction. -/
def WithinDays (days nanoseconds : Int) : Prop :=
  -(days * dayLength) ≤ nanoseconds ∧ nanoseconds ≤ days * dayLength

namespace WithinDays

variable {days further nanoseconds later : Int}

theorem mono (within : WithinDays days nanoseconds) (wider : days ≤ further) :
    WithinDays further nanoseconds := by
  obtain ⟨lower, upper⟩ := within
  have scaled : days * dayLength ≤ further * dayLength :=
    Int.mul_le_mul_of_nonneg_right wider (by decide)
  exact ⟨Int.le_trans (Int.neg_le_neg scaled) lower, Int.le_trans upper scaled⟩

/-- What lies near a count that lies near 1970 lies near 1970 as well. -/
theorem trans (within : WithinDays days nanoseconds)
    (near : WithinDays further (later - nanoseconds)) : WithinDays (days + further) later := by
  obtain ⟨lower, upper⟩ := within
  obtain ⟨nearLower, nearUpper⟩ := near
  unfold WithinDays
  rw [Int.add_mul]
  omega

theorem inCalendar (within : WithinDays days nanoseconds) (room : days ≤ 95000000) :
    InCalendar nanoseconds := by
  obtain ⟨lower, upper⟩ := within.mono room
  unfold dayLength at lower upper
  unfold InCalendar
  omega

end WithinDays

def Instant.Reaches (days : Int) (instant? : Option Instant) : Prop :=
  ∃ instant, instant? = some instant ∧ WithinDays days instant.nanoseconds

namespace Instant.Reaches

variable {days further nanoseconds : Int} {instant : Instant} {instant? : Option Instant}

theorem of_within (within : WithinDays days instant.nanoseconds) : Reaches days (some instant) :=
  ⟨instant, rfl, within⟩

theorem mono (reaches : Reaches days instant?) (wider : days ≤ further) :
    Reaches further instant? := by
  obtain ⟨instant, found, within⟩ := reaches
  exact ⟨instant, found, within.mono wider⟩

/-- A step that has a result from wherever the first leads has one after it. -/
theorem bind {send? : Instant → Option Instant} (reaches : Reaches days instant?)
    (sends : ∀ {instant : Instant}, WithinDays days instant.nanoseconds →
      Reaches further (send? instant)) : Reaches further (instant?.bind send?) := by
  obtain ⟨instant, rfl, within⟩ := reaches
  exact sends within

theorem ofNanoseconds? (within : WithinDays days nanoseconds) (room : days ≤ 95000000) :
    Reaches days (Instant.ofNanoseconds? nanoseconds) :=
  ⟨⟨nanoseconds, within.inCalendar room⟩, Instant.ofNanoseconds?_eq_some_iff.mpr rfl, within⟩

end Instant.Reaches

/-! ## Moves on a wall clock -/

theorem monthStart_add_le (month : Int) (count : Nat) :
    monthStart (month + count) ≤ monthStart month + 31 * count := by
  induction count with
  | zero => simp
  | succ count ih =>
      have next := (monthLength_bounds (month + count)).2
      unfold monthLength at next
      rw [Int.add_assoc] at next
      rw [Int.natCast_succ]
      omega

theorem monthStart_le_of_le {first last : Int} (ordered : first ≤ last) :
    monthStart first ≤ monthStart last := by
  apply Int.not_lt.mp
  rw [monthStart_lt_iff]
  exact Int.not_lt.mpr ordered

/-- A move by months leads as far as that many long months, and not much further back. -/
theorem addMonths_bounds (day count : Int) {most : Nat} (lower : -most ≤ count)
    (upper : count ≤ most) :
    day - (31 * most + 30) ≤ addMonths day count ∧ addMonths day count ≤ day + 31 * most := by
  have held := monthOf_holds day
  have length := (monthLength_bounds (monthOf day)).2
  have target := (monthLength_bounds (monthOf day + count)).1
  unfold monthLength at length
  simp only [addMonths]
  -- Whichever month comes first, the days between the two starts are those of the months between.
  rcases Int.le_total 0 count with forward | backward
  · have ahead := monthStart_add_le (monthOf day) count.toNat
    rw [Int.toNat_of_nonneg forward] at ahead
    have notBefore := monthStart_le_of_le (show monthOf day ≤ monthOf day + count by omega)
    omega
  · have ahead := monthStart_add_le (monthOf day + count) (-count).toNat
    rw [Int.toNat_of_nonneg (by omega), show monthOf day + count + -count = monthOf day by omega]
      at ahead
    have notAfter := monthStart_le_of_le (show monthOf day + count ≤ monthOf day by omega)
    omega

end Calendar

open Calendar

variable {unit : TimeUnit} {most : Nat} {count : Int}

theorem TimeUnit.shiftDay_bounds (calendar : unit.measure.IsCalendar) (lower : -most ≤ count)
    (upper : count ≤ most) (day : Int) :
    day - (372 * most + 30) ≤ unit.measure.shiftDay count day ∧
      unit.measure.shiftDay count day ≤ day + 372 * most := by
  have months {moved : Int} {size : Nat} (lower : -size ≤ moved) (upper : moved ≤ size)
      (room : size ≤ 12 * most) : day - (372 * most + 30) ≤ addMonths day moved ∧
        addMonths day moved ≤ day + 372 * most := by
    have bounds := addMonths_bounds day moved lower upper
    omega
  cases unit with
  | second => exact calendar.elim
  | minute => exact calendar.elim
  | hour => exact calendar.elim
  | day => simp only [measure, Measure.shiftDay]; omega
  | week => simp only [measure, Measure.shiftDay]; omega
  | month => exact @months (count * 1) (most * 1) (by omega) (by omega) (by omega)
  | quarter => exact @months (count * 3) (most * 3) (by omega) (by omega) (by omega)
  | year => exact @months (count * 12) (most * 12) (by omega) (by omega) (by omega)

/--
A move by a number of units leads at most as many years of twelve long months
away, and another month for the days that a shorter one lacks.
-/
theorem TimeUnit.shift_near (lower : -most ≤ count) (upper : count ≤ most) (nanoseconds : Int) :
    WithinDays (372 * most + 31) (unit.measure.shift count nanoseconds - nanoseconds) := by
  by_cases calendar : unit.measure.IsCalendar
  · have bounds := unit.shiftDay_bounds calendar lower upper (nanoseconds / dayLength)
    rw [Measure.shift_of_isCalendar calendar]
    unfold WithinDays
    unfold dayLength at *
    omega
  · obtain ⟨length, exact⟩ := Measure.exists_eq_exact calendar
    have lengths : length = 1000000000 ∨ length = 60000000000 ∨ length = 3600000000000 := by
      cases unit <;> cases exact <;> simp
    rw [exact]
    simp only [Measure.shift, WithinDays, dayLength]
    rcases lengths with rfl | rfl | rfl <;> omega

namespace Zone

variable {zone : Zone} {convention : Convention} {instant : Instant} {days : Int}

/-- A bucket starts little more than a year before what it holds. -/
theorem floor_near (convention : Convention) (unit : TimeUnit) (nanoseconds : Int) :
    WithinDays 403 ((convention.grid unit).floor nanoseconds - nanoseconds) := by
  have below := (convention.grid unit).floor_le nanoseconds
  have above := (convention.grid unit).lt_after_one nanoseconds
  have next := @TimeUnit.shift_near unit 1 1 (by decide) (by decide)
    ((convention.grid unit).floor nanoseconds)
  rw [Grid.floor, Convention.shift_grid_start, ← Grid.after, ← Grid.floor] at next
  obtain ⟨_, upper⟩ := next
  unfold WithinDays dayLength
  unfold dayLength at upper
  omega

/-! ## Steps on the clocks of a zone -/

section Steady

variable (steady : zone.Steady) (within : WithinDays days instant.nanoseconds)

include steady

theorem Steady.withinDays_offset (second : Int) :
    WithinDays 1 (zone.offsetAtSecond second * secondLength) := by
  have bounds := steady.offsetAtSecond_bounds second
  unfold WithinDays dayLength secondLength
  omega

theorem Steady.locate?_reaches {wall : WallTime} (within : WithinDays days wall.nanoseconds)
    (room : days + 1 ≤ 95000000) : Instant.Reaches (days + 1) (zone.locate? wall) := by
  have backward {nanoseconds : Int} (near : WithinDays 1 nanoseconds) :
      Instant.Reaches (days + 1) (Instant.ofNanoseconds? (wall.nanoseconds - nanoseconds)) := by
    refine .ofNanoseconds? (within.trans ?_) room
    obtain ⟨lower, upper⟩ := near
    unfold WithinDays
    omega
  cases shown : zone.spanShowing? wall with
  | some span =>
      have offset := (steady.of_spanShowing?_eq_some shown).1
      simp only [locate?, shown]
      rw [← offset]
      exact backward (steady.withinDays_offset _)
  | none =>
      -- A skipped time is read with the offset of the instant a day before.
      simp only [locate?, shown]
      obtain ⟨eve, eveFound, _⟩ := backward (show WithinDays 1 dayLength from ⟨by decide, by decide⟩)
      rw [eveFound]
      exact backward (steady.withinDays_offset eve.seconds)

include within

theorem Steady.exists_wallTime? (room : days + 1 ≤ 95000000) :
    ∃ wall, zone.wallTime? instant = some wall ∧ WithinDays (days + 1) wall.nanoseconds := by
  have shown : WithinDays (days + 1) (zone.wallNanoseconds instant) := by
    apply within.trans
    rw [wallNanoseconds, Int.add_comm, Int.add_sub_cancel]
    exact steady.withinDays_offset _
  exact ⟨⟨_, shown.inCalendar room⟩, wallTime?_eq_some_iff.mpr rfl, shown⟩

/-- A move by a number of units has a result if as many long years lie in the calendar. -/
theorem Steady.shift?_reaches (lower : -most ≤ count) (upper : count ≤ most)
    (room : days + (372 * most + 33) ≤ 95000000) :
    Instant.Reaches (days + (372 * most + 33)) (zone.shift? unit count instant) := by
  by_cases calendar : unit.measure.IsCalendar
  · obtain ⟨wall, read, wallWithin⟩ := steady.exists_wallTime? within (by omega)
    have moved := wallWithin.trans (unit.shift_near lower upper wall.nanoseconds)
    have aimed : wall.shift? unit.measure count = some ⟨_, moved.inCalendar (by omega)⟩ :=
      WallTime.ofNanoseconds?_eq_some_iff.mpr rfl
    rw [shift?_of_isCalendar calendar, read, Option.bind_some, aimed, Option.bind_some]
    exact (steady.locate?_reaches moved (by omega)).mono (by omega)
  · obtain ⟨length, exact⟩ := Measure.exists_eq_exact calendar
    have moved := within.trans (unit.shift_near lower upper instant.nanoseconds)
    rw [exact] at moved
    rw [shift?_of_exact exact]
    exact (Instant.Reaches.ofNanoseconds? moved (by omega)).mono (by omega)

theorem Steady.truncate?_reaches (convention : Convention) (unit : TimeUnit)
    (room : days + 405 ≤ 95000000) :
    Instant.Reaches (days + 405) (zone.truncate? convention (some unit) instant) := by
  change Instant.Reaches _ (zone.bucketStart? convention unit instant)
  obtain ⟨wall, read, wallWithin⟩ := steady.exists_wallTime? within (by omega)
  have near := floor_near convention unit wall.nanoseconds
  by_cases calendar : unit.measure.IsCalendar
  · have floored := wallWithin.trans near
    rw [Convention.floor_grid_of_isCalendar convention calendar] at floored
    have midnight : WallTime.midnight? ((convention.dateGrid unit).floor wall.day)
        = some ⟨_, floored.inCalendar (by omega)⟩ := WallTime.ofNanoseconds?_eq_some_iff.mpr rfl
    rw [bucketStart?_eq_startOfDay? calendar read, startOfDay?, midnight, Option.bind_some]
    exact (steady.locate?_reaches floored (by omega)).mono (by omega)
  · obtain ⟨length, exact⟩ := Measure.exists_eq_exact calendar
    rw [Convention.floor_grid_of_exact convention exact] at near
    simp only [bucketStart?, read, exact, Option.bind_eq_bind, Option.bind_some]
    rw [show wall.nanoseconds - wall.nanoseconds % length - wall.nanoseconds
      = instant.nanoseconds - wall.nanoseconds % length - instant.nanoseconds by omega] at near
    exact (Instant.Reaches.ofNanoseconds? (within.trans near) (by omega)).mono (by omega)

theorem Steady.ceiling?_reaches (convention : Convention) (unit : TimeUnit)
    (room : days + 810 ≤ 95000000) :
    Instant.Reaches (days + 810) (zone.ceiling? convention (some unit) instant) := by
  change Instant.Reaches _ (zone.bucketCeiling? convention unit instant)
  refine Instant.Reaches.bind (steady.truncate?_reaches within convention unit (by omega)) ?_
  intro start startWithin
  split
  · exact (Instant.Reaches.of_within within).mono (by omega)
  · have next := @Steady.shift?_reaches unit 1 1 zone start _ steady startWithin (by decide)
      (by decide) (by omega)
    exact next.mono (by omega)

end Steady

end Zone

end TimeRange
