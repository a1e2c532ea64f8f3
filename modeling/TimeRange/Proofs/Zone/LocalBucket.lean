import TimeRange.Proofs.Zone.History

/-!
# Buckets on local clocks

On a steady history a bucket of days or months starts where the zone locates the
midnight of its first day, and rounding that instant down gives it again, even
where a change of offset skips the midnight.

A move on the wall clock does not always keep to the buckets, since its result
is located before anything else is done with it. What a move from anywhere in a
bucket can lead to is said by `Steady.bucketStart?_of_shift?`, and what one unit
after the start of a bucket is by `Steady.of_shift?_startOfDay?`. Rounding up is
the latter, so that its result is not a midnight if the bucket that holds the
instant begins with a midnight that is skipped.

The main statement is `ceiling?_starts_next_bucket`.
-/

namespace TimeRange

open Calendar

namespace Zone

variable {zone : Zone} {convention : Convention} {unit : TimeUnit} {instant : Instant}

def startOfDay? (zone : Zone) (day : Int) : Option Instant :=
  (WallTime.midnight? day).bind zone.locate?

theorem startOfDay?_eq_some_iff {day : Int} :
    zone.startOfDay? day = some instant ↔
      ∃ midnight : WallTime, midnight.nanoseconds = day * dayLength
        ∧ zone.locate? midnight = some instant := by
  simp only [startOfDay?, WallTime.midnight?, Option.bind_eq_some_iff,
    WallTime.ofNanoseconds?_eq_some_iff]

theorem bucketStart?_eq_startOfDay? (calendar : unit.measure.IsCalendar) {wall : WallTime}
    (read : zone.wallTime? instant = some wall) :
    zone.bucketStart? convention unit instant
      = zone.startOfDay? ((convention.dateGrid unit).floor wall.day) := by
  rw [bucketStart?_of_isCalendar calendar, read]
  rfl

theorem Steady.jump_bounds (steady : zone.Steady) {change : Change} (member : change ∈ zone.changes)
    {wallSecond : Int} (skips : change.Skips wallSecond) : 0 < change.jump ∧ change.jump ≤ 86400 := by
  obtain ⟨begun, ends⟩ := skips
  have bounds := SteadyFrom.change_bounds steady member
  refine ⟨?_, bounds.2.1⟩
  unfold Change.jump
  omega

/-- The start of a bucket is rounded down to itself. -/
theorem Steady.bucketStart?_of_startOfDay? (steady : zone.Steady)
    (calendar : unit.measure.IsCalendar) {day : Int} (starts : (convention.dateGrid unit).Starts day)
    (found : zone.startOfDay? day = some instant) :
    zone.bucketStart? convention unit instant = some instant := by
  obtain ⟨midnight, midnightAt, located⟩ := startOfDay?_eq_some_iff.mp found
  obtain ⟨landed, read, again, moved⟩ := steady.locates located
  have landing : landed.day = day ∨ landed.nanoseconds = (day + 1) * dayLength := by
    rcases moved with unmoved | ⟨change, member, skips, landedAt⟩
    · left
      rw [unmoved, WallTime.day, midnightAt]
      exact Int.mul_ediv_cancel _ (by decide)
    · obtain ⟨positive, atMost⟩ := steady.jump_bounds member skips
      simp only [WallTime.day, landedAt, midnightAt, secondLength, dayLength]
      omega
  rw [bucketStart?_eq_startOfDay? calendar read]
  rcases landing with sameDay | nextMidnight
  · rw [sameDay, starts]
    exact found
  · -- the whole day is skipped, and the bucket may be of that day alone
    have nextDay : landed.day = day + 1 := by
      rw [WallTime.day, nextMidnight]
      exact Int.mul_ediv_cancel _ (by decide)
    have reached := Grid.le_floor starts (show day ≤ landed.day by omega)
    have below := (convention.dateGrid unit).floor_le landed.day
    by_cases alone : (convention.dateGrid unit).floor landed.day = landed.day
    · rw [alone, nextDay]
      exact startOfDay?_eq_some_iff.mpr ⟨landed, nextMidnight, again⟩
    · rw [show (convention.dateGrid unit).floor landed.day = day by omega]
      exact found

theorem Steady.truncate?_truncate? (steady : zone.Steady) (calendar : unit.measure.IsCalendar)
    {start : Instant} (found : zone.truncate? convention (some unit) instant = some start) :
    zone.truncate? convention (some unit) start = some start := by
  change zone.bucketStart? convention unit instant = some start at found
  rw [bucketStart?_of_isCalendar calendar] at found
  obtain ⟨wall, _, begun⟩ := Option.bind_eq_some_iff.mp found
  exact steady.bucketStart?_of_startOfDay? calendar (Grid.starts_floor _ wall.day) begun

/-- A time and one at most a day later are of the same day or of days that follow one another. -/
theorem day_of_carried {wall landed : WallTime} {jump : Int} (positive : 0 < jump)
    (atMost : jump ≤ 86400)
    (landedAt : landed.nanoseconds = wall.nanoseconds + jump * secondLength) :
    landed.day = wall.day ∨ landed.day = wall.day + 1 := by
  unfold WallTime.day
  rw [landedAt]
  unfold secondLength dayLength
  omega

/--
A move by a number of units, rounded down, leads to the start of the bucket that
lies as many buckets after the one of the instant, or to the start of the bucket
after that one. The latter only happens where a change skips the time to which
the wall clock is moved, and carries it past the end of the bucket.
-/
theorem Steady.bucketStart?_of_shift? (steady : zone.Steady) (calendar : unit.measure.IsCalendar)
    {wall : WallTime} (read : zone.wallTime? instant = some wall) {count : Int}
    {moved start : Instant} (shifted : zone.shift? unit count instant = some moved)
    (found : zone.bucketStart? convention unit moved = some start) :
    zone.startOfDay? ((convention.dateGrid unit).after count wall.day) = some start ∨
      ∃ change ∈ zone.changes,
        change.Skips (unit.measure.shift count wall.nanoseconds / secondLength) ∧
          (convention.dateGrid unit).after (count + 1) wall.day * dayLength
            ≤ unit.measure.shift count wall.nanoseconds + change.jump * secondLength ∧
          zone.startOfDay? ((convention.dateGrid unit).after (count + 1) wall.day) = some start := by
  rw [shift?_of_isCalendar calendar, read, Option.bind_some, Option.bind_eq_some_iff] at shifted
  obtain ⟨aim, aimed, located⟩ := shifted
  rw [WallTime.shift?, WallTime.ofNanoseconds?_eq_some_iff] at aimed
  obtain ⟨landed, landedRead, _, carried⟩ := steady.locates located
  rw [bucketStart?_eq_startOfDay? calendar landedRead] at found
  have bucket : (convention.dateGrid unit).index aim.day
      = (convention.dateGrid unit).index wall.day + count := by
    rw [WallTime.day, aimed, ← Convention.index_grid_of_isCalendar convention calendar,
      Convention.index_grid_shift, Convention.index_grid_of_isCalendar convention calendar,
      WallTime.day]
  have reached : (convention.dateGrid unit).index landed.day
        = (convention.dateGrid unit).index aim.day →
      zone.startOfDay? ((convention.dateGrid unit).after count wall.day) = some start := by
    intro same
    rwa [Grid.floor, same, bucket] at found
  rcases carried with rfl | ⟨change, member, skips, landedAt⟩
  · exact .inl (reached rfl)
  · obtain ⟨positive, atMost⟩ := steady.jump_bounds member skips
    rcases day_of_carried positive atMost landedAt with sameDay | nextDay
    · exact .inl (reached (by rw [sameDay]))
    · rcases (convention.dateGrid unit).index_add_one aim.day with same | next
      · exact .inl (reached (by rw [nextDay, same]))
      · right
        have floored : (convention.dateGrid unit).floor landed.day
            = (convention.dateGrid unit).after (count + 1) wall.day := by
          rw [Grid.floor, nextDay, next, bucket, Grid.after, Int.add_assoc]
        refine ⟨change, member, ?_, ?_, ?_⟩
        · rwa [WallTime.seconds, aimed] at skips
        · have below := (convention.dateGrid unit).floor_le landed.day
          rw [floored] at below
          rw [← aimed, ← landedAt]
          exact (Int.le_ediv_iff_mul_le (by decide)).mp below
        · rwa [floored] at found

/--
One unit after the start of a bucket is the start of the next bucket, unless a
change skips the midnight of the former. Then it is where the zone locates the
midnight of the next bucket, moved on by the jump of the change.
-/
theorem Steady.of_shift?_startOfDay? (steady : zone.Steady) (calendar : unit.measure.IsCalendar)
    {bucket : Int} {start stop : Instant}
    (begun : zone.startOfDay? ((convention.dateGrid unit).start bucket) = some start)
    (found : zone.shift? unit 1 start = some stop) :
    zone.startOfDay? ((convention.dateGrid unit).start (bucket + 1)) = some stop ∨
      ∃ change ∈ zone.changes,
        change.Skips ((convention.dateGrid unit).start bucket * 86400) ∧
          (WallTime.ofNanoseconds? ((convention.dateGrid unit).start (bucket + 1) * dayLength
            + change.jump * secondLength)).bind zone.locate? = some stop := by
  obtain ⟨midnight, midnightAt, located⟩ := startOfDay?_eq_some_iff.mp begun
  obtain ⟨landed, read, _, moved⟩ := steady.locates located
  have next {later : Int} (landedAt : landed.nanoseconds
      = (convention.dateGrid unit).start bucket * dayLength + later)
      (first : 0 ≤ later) (last : later ≤ dayLength) :
      (WallTime.ofNanoseconds? ((convention.dateGrid unit).start (bucket + 1) * dayLength
        + later)).bind zone.locate? = some stop := by
    rw [shift?_of_isCalendar calendar, read, Option.bind_some, WallTime.shift?, landedAt,
      Convention.shift_dateGrid_start_add convention calendar 1 bucket first
        (Int.lt_of_le_of_lt last (by decide))] at found
    exact found
  rcases moved with unmoved | ⟨change, member, skips, landedAt⟩
  · left
    rw [← Int.add_zero (_ * dayLength), ← unmoved] at midnightAt
    have located := next midnightAt (Int.le_refl 0) (by decide)
    rwa [Int.add_zero] at located
  · right
    obtain ⟨positive, atMost⟩ := steady.jump_bounds member skips
    have second : midnight.seconds = (convention.dateGrid unit).start bucket * 86400 := by
      simp only [WallTime.seconds, midnightAt, dayLength, secondLength]
      omega
    rw [midnightAt] at landedAt
    refine ⟨change, member, second ▸ skips, next landedAt ?_ ?_⟩
    · unfold secondLength
      omega
    · unfold secondLength dayLength
      omega

/--
Rounding an instant up to a unit from a day on leads to the start of the next
bucket, and rounding that down changes nothing, unless a change skips the
midnight with which the bucket of the instant begins. Then it leads to where the
zone locates the midnight of the next bucket, moved on by the jump of the change.
-/
theorem ceiling?_starts_next_bucket {named : NamedZone} (member : named ∈ NamedZone.catalogue)
    {unit : TimeUnit} (calendar : unit.measure.IsCalendar) (convention : Convention)
    {instant stop : Instant} {wall : WallTime} (read : named.toZone.wallTime? instant = some wall)
    (found : named.toZone.ceiling? convention (some unit) instant = some stop) :
    (named.toZone.truncate? convention (some unit) stop = some stop ∧
        (named.toZone.truncate? convention (some unit) instant = some instant ∨
          named.toZone.startOfDay? ((convention.dateGrid unit).after 1 wall.day) = some stop)) ∨
      ∃ change ∈ named.toZone.changes,
        change.Skips ((convention.dateGrid unit).floor wall.day * 86400) ∧
          (WallTime.ofNanoseconds? ((convention.dateGrid unit).after 1 wall.day * dayLength
            + change.jump * secondLength)).bind named.toZone.locate? = some stop := by
  have steady := steady_of_mem_catalogue named member
  change named.toZone.bucketCeiling? convention unit instant = some stop at found
  simp only [bucketCeiling?, Option.bind_eq_bind, Option.bind_eq_some_iff] at found
  obtain ⟨start, rounded, found⟩ := found
  split at found
  · rename_i same
    cases found
    subst same
    exact .inl ⟨rounded, .inl rounded⟩
  · rw [bucketStart?_eq_startOfDay? calendar read] at rounded
    rcases steady.of_shift?_startOfDay? calendar rounded found with next | skipped
    · exact .inl ⟨steady.bucketStart?_of_startOfDay? calendar (Grid.starts_start _ _) next, .inr next⟩
    · exact .inr skipped

/-- In Apia, where the thirtieth of December 2011 is skipped, the day before it ends as the thirty-first begins. -/
theorem ceiling?_starts_next_bucket_of_skipped_day :
    NamedZone.pacificApia.toZone.ceiling? .standard (some .day) ⟨1325206800000000000, by decide⟩ =
        some ⟨1325239200000000000, by decide⟩ ∧
      NamedZone.pacificApia.toZone.startOfDay? 15338 = some ⟨1325239200000000000, by decide⟩ := by
  have found : NamedZone.pacificApia.toZone.ceiling? .standard (some .day)
      ⟨1325206800000000000, by decide⟩ = some ⟨1325239200000000000, by decide⟩ := by
    decide +kernel
  have read : NamedZone.pacificApia.toZone.wallTime? ⟨1325206800000000000, by decide⟩
      = some ⟨1325170800000000000, by decide⟩ := by
    decide +kernel
  have calendar : TimeUnit.day.measure.IsCalendar := trivial
  have within : NamedZone.pacificApia.toZone.truncate? .standard (some .day)
      ⟨1325206800000000000, by decide⟩ ≠ some ⟨1325206800000000000, by decide⟩ := by
    decide +kernel
  have unskipped : ∀ change ∈ NamedZone.pacificApia.toZone.changes, ¬ change.Skips (15337 * 86400) := by
    decide +kernel
  refine ⟨found, ?_⟩
  rcases ceiling?_starts_next_bucket (by decide +kernel) calendar .standard read found with
    ⟨_, started | next⟩ | ⟨change, member, skips, _⟩
  · exact absurd started within
  · exact next
  · exact absurd skips (unskipped change member)

/--
In Havana, where the clock skips the first hour of the tenth of March 2024, the
day before the eleventh is rounded up to one in the morning, which is in turn
rounded down to midnight.
-/
theorem ceiling?_past_midnight :
    ∃ instant stop midnight : Instant,
      NamedZone.americaHavana.toZone.ceiling? .standard (some .day) instant = some stop ∧
        NamedZone.americaHavana.toZone.startOfDay? 19793 = some midnight ∧
        NamedZone.americaHavana.toZone.truncate? .standard (some .day) stop = some midnight ∧
        midnight.nanoseconds + 3600 * secondLength = stop.nanoseconds := by
  refine ⟨⟨1710086400000000000, by decide⟩, ⟨1710133200000000000, by decide⟩,
    ⟨1710129600000000000, by decide⟩, ?_, ?_, ?_, ?_⟩ <;> decide +kernel

end Zone

end TimeRange
