import TimeRange.Proofs.Zone.LocalBucket

/-!
# Away from changes of offset

While a zone keeps its offset, its wall clock runs along with Universal Time. So
rounding and moving an instant are rounding and moving what the wall clock shows,
if the offset is kept for two days around the instants that take part. Two days
are enough: a wall-clock time lies within a day of the instant that it is located
at, and a skipped time is read with the offset of a day before.

The main statement is `agrees_with_universal_time`.
-/

namespace TimeRange.Zone

open Calendar

/-- Whether a zone has one offset from two days before the earliest of some instants to two days after the latest. -/
def KeepsOffset (zone : Zone) (offset : Int) (instants : List Instant) : Prop :=
  ∀ first ∈ instants, ∀ last ∈ instants, ∀ between : Instant,
    first.nanoseconds - 2 * dayLength ≤ between.nanoseconds →
      between.nanoseconds ≤ last.nanoseconds + 2 * dayLength → zone.offsetAt between = offset

variable {zone : Zone} {offset : Int} {convention : Convention} {unit : TimeUnit}
  {instant start stop located moved universal : Instant}

namespace KeepsOffset

variable {instants others : List Instant}

theorem of_subset (keeps : zone.KeepsOffset offset instants) (fewer : others ⊆ instants) :
    zone.KeepsOffset offset others :=
  fun first firstListed last lastListed => keeps first (fewer firstListed) last (fewer lastListed)

/-- Up to two days before one of the instants the offset is the same. -/
theorem offsetAt_of_eve (keeps : zone.KeepsOffset offset instants) (listed : instant ∈ instants)
    {eve : Instant} (near : instant.nanoseconds - 2 * dayLength ≤ eve.nanoseconds)
    (before : eve.nanoseconds ≤ instant.nanoseconds) : zone.offsetAt eve = offset := by
  apply keeps instant listed instant listed eve near
  apply Int.le_trans before
  exact Int.le_add_of_nonneg_right (by decide)

theorem offsetAt_eq (keeps : zone.KeepsOffset offset instants) (listed : instant ∈ instants) :
    zone.offsetAt instant = offset :=
  keeps.offsetAt_of_eve listed (Int.sub_le_self _ (by decide)) (Int.le_refl _)

theorem wallNanoseconds_eq (keeps : zone.KeepsOffset offset instants) (listed : instant ∈ instants) :
    zone.wallNanoseconds instant = instant.nanoseconds + offset * secondLength := by
  rw [wallNanoseconds, keeps.offsetAt_eq listed]

end KeepsOffset

/-! ## What the wall clock shows -/

theorem Steady.offsetAt_bounds (steady : zone.Steady) (instant : Instant) :
    -86400 ≤ zone.offsetAt instant ∧ zone.offsetAt instant ≤ 86400 :=
  steady.offsetAtSecond_bounds instant.seconds

/-- A time is shown at the instant at which it is located: it is not skipped. -/
theorem Steady.wallNanoseconds_of_locate? (steady : zone.Steady) {wall : WallTime}
    (keeps : zone.KeepsOffset offset [located]) (found : zone.locate? wall = some located) :
    zone.wallNanoseconds located = wall.nanoseconds := by
  have listed : located ∈ [located] := List.mem_singleton_self located
  cases shown : zone.spanShowing? wall with
  | some span => exact (wallTime?_eq_some_iff.mp (steady.wallTime?_of_shown shown found)).symm
  | none =>
      simp only [locate?, shown, Option.bind_eq_bind, Option.bind_eq_some_iff,
        Instant.ofNanoseconds?_eq_some_iff] at found
      obtain ⟨eve, eveAt, locatedAt⟩ := found
      have bounds := steady.offsetAt_bounds eve
      have eveOffset : zone.offsetAt eve = offset := by
        apply keeps.offsetAt_of_eve listed <;> unfold dayLength secondLength at * <;> omega
      rw [keeps.wallNanoseconds_eq listed, locatedAt, eveOffset, Int.sub_add_cancel]

/-- A move of an instant moves what the wall clock shows. -/
theorem Steady.wallNanoseconds_of_shift? (steady : zone.Steady) {count : Int}
    (keeps : zone.KeepsOffset offset [instant, moved])
    (found : zone.shift? unit count instant = some moved) :
    zone.wallNanoseconds moved = unit.measure.shift count (zone.wallNanoseconds instant) := by
  by_cases calendar : unit.measure.IsCalendar
  · rw [shift?_of_isCalendar calendar, Option.bind_eq_some_iff] at found
    obtain ⟨wall, read, found⟩ := found
    obtain ⟨aim, aimed, located⟩ := Option.bind_eq_some_iff.mp found
    rw [WallTime.shift?, WallTime.ofNanoseconds?_eq_some_iff, wallTime?_eq_some_iff.mp read] at aimed
    rw [← aimed]
    exact steady.wallNanoseconds_of_locate? (keeps.of_subset (by simp)) located
  · obtain ⟨length, exact⟩ := Measure.exists_eq_exact calendar
    rw [keeps.wallNanoseconds_eq (by simp), keeps.wallNanoseconds_eq (by simp)]
    rw [(shift?_of_exact_eq_some_iff exact).mp found, exact]
    exact Int.add_right_comm _ _ _

theorem Steady.wallNanoseconds_of_truncate? (steady : zone.Steady)
    (keeps : zone.KeepsOffset offset [instant, start])
    (found : zone.truncate? convention (some unit) instant = some start) :
    zone.wallNanoseconds start = (convention.grid unit).floor (zone.wallNanoseconds instant) := by
  change zone.bucketStart? convention unit instant = some start at found
  by_cases calendar : unit.measure.IsCalendar
  · obtain ⟨wall, read, _⟩ :=
      Option.bind_eq_some_iff.mp (bucketStart?_of_isCalendar calendar ▸ found)
    rw [bucketStart?_eq_startOfDay? calendar read] at found
    obtain ⟨midnight, midnightAt, located⟩ := startOfDay?_eq_some_iff.mp found
    rw [steady.wallNanoseconds_of_locate? (keeps.of_subset (by simp)) located, midnightAt,
      Convention.floor_grid_of_isCalendar convention calendar, WallTime.day,
      wallTime?_eq_some_iff.mp read]
  · obtain ⟨length, exact⟩ := Measure.exists_eq_exact calendar
    have startAt := ((bucketStart?_of_exact_eq_some_iff exact).mp found).2
    rw [Convention.floor_grid_of_exact convention exact, keeps.wallNanoseconds_eq (by simp), startAt,
      keeps.wallNanoseconds_eq (by simp)]
    omega

theorem Steady.wallNanoseconds_of_ceiling? (steady : zone.Steady)
    (keeps : zone.KeepsOffset offset [instant, start, stop])
    (rounded : zone.truncate? convention (some unit) instant = some start)
    (found : zone.ceiling? convention (some unit) instant = some stop) :
    zone.wallNanoseconds stop = (convention.grid unit).ceiling (zone.wallNanoseconds instant) := by
  have floored := steady.wallNanoseconds_of_truncate? (keeps.of_subset (by simp)) rounded
  change zone.bucketStart? convention unit instant = some start at rounded
  change zone.bucketCeiling? convention unit instant = some stop at found
  simp only [bucketCeiling?, rounded, Option.bind_eq_bind, Option.bind_some] at found
  split at found
  · rename_i starts
    cases found
    rw [starts] at floored
    exact (Grid.ceiling_eq_self_iff.mpr floored.symm).symm
  · rename_i within
    have inside : ¬ (convention.grid unit).Starts (zone.wallNanoseconds instant) := by
      intro starts
      rw [starts, keeps.wallNanoseconds_eq (by simp), keeps.wallNanoseconds_eq (by simp)] at floored
      exact within (Instant.eq_of_nanoseconds_eq ((Int.add_left_inj _).mp floored))
    have shifted := steady.wallNanoseconds_of_shift? (keeps.of_subset (by simp)) found
    rw [shifted, floored, Grid.ceiling, if_neg inside]
    exact Convention.shift_grid_start convention _ _

/-! ## The same in Universal Time -/

theorem wallNanoseconds_utc (instant : Instant) :
    NamedZone.utc.toZone.wallNanoseconds instant = instant.nanoseconds := by
  change (fixed 0).wallNanoseconds instant = _
  rw [wallNanoseconds_fixed, Int.zero_mul, Int.add_zero]

/-- What is shown in Universal Time is shown in the zone at the instant from which the offset is taken off. -/
theorem KeepsOffset.nanoseconds_eq {instants : List Instant} (keeps : zone.KeepsOffset offset instants)
    (listed : instant ∈ instants)
    (same : NamedZone.utc.toZone.wallNanoseconds universal = zone.wallNanoseconds instant) :
    instant.nanoseconds = universal.nanoseconds - offset * secondLength := by
  rw [wallNanoseconds_utc, keeps.wallNanoseconds_eq listed] at same
  exact (Int.sub_eq_iff_eq_add.mpr same).symm

/--
While a zone of the catalogue keeps its offset, rounding down, rounding up and
moving an instant give what they give in Universal Time for the instant at which
that shows the same, and the offset is taken off the result. Rounding up goes
through the start of the bucket, so the offset has to be kept around it as well.
-/
theorem agrees_with_universal_time {named : NamedZone} (member : named ∈ NamedZone.catalogue)
    (unit : TimeUnit) (offset : Int) {instant universal : Instant}
    (shown : universal.nanoseconds = instant.nanoseconds + offset * secondLength) :
    (∀ convention start rounded, named.toZone.KeepsOffset offset [instant, start] →
        named.toZone.truncate? convention (some unit) instant = some start →
        NamedZone.utc.toZone.truncate? convention (some unit) universal = some rounded →
        start.nanoseconds = rounded.nanoseconds - offset * secondLength) ∧
      (∀ convention start stop rounded, named.toZone.KeepsOffset offset [instant, start, stop] →
        named.toZone.truncate? convention (some unit) instant = some start →
        named.toZone.ceiling? convention (some unit) instant = some stop →
        NamedZone.utc.toZone.ceiling? convention (some unit) universal = some rounded →
        stop.nanoseconds = rounded.nanoseconds - offset * secondLength) ∧
      ∀ count moved landed, named.toZone.KeepsOffset offset [instant, moved] →
        named.toZone.shift? unit count instant = some moved →
        NamedZone.utc.toZone.shift? unit count universal = some landed →
        moved.nanoseconds = landed.nanoseconds - offset * secondLength := by
  have steady := steady_of_mem_catalogue named member
  have alike {others : List Instant} (keeps : named.toZone.KeepsOffset offset (instant :: others)) :
      NamedZone.utc.toZone.wallNanoseconds universal = named.toZone.wallNanoseconds instant := by
    rw [wallNanoseconds_utc, keeps.wallNanoseconds_eq List.mem_cons_self, shown]
  refine ⟨?_, ?_, ?_⟩
  · intro convention start rounded keeps found universalFound
    apply keeps.nanoseconds_eq (by simp)
    rw [steady.wallNanoseconds_of_truncate? keeps found, ← alike keeps]
    exact (truncate?_fixed_eq_some_iff.mp universalFound).2.2
  · intro convention start stop rounded keeps begun found universalFound
    apply keeps.nanoseconds_eq (by simp)
    rw [steady.wallNanoseconds_of_ceiling? keeps begun found, ← alike keeps]
    exact (of_ceiling?_fixed universalFound).2.2
  · intro count moved landed keeps found universalFound
    apply keeps.nanoseconds_eq (by simp)
    rw [steady.wallNanoseconds_of_shift? keeps found, ← alike keeps]
    exact (shift?_fixed_eq_some_iff.mp universalFound).2

/--
In Kathmandu, five hours and three quarters ahead of Universal Time since 1986,
June 2024 ends so much before it does in Universal Time.
-/
theorem agrees_with_universal_time_of_kathmandu :
    NamedZone.asiaKathmandu.toZone.ceiling? .standard (some .month)
          ⟨1718452800000000000, by decide⟩ = some ⟨1719771300000000000, by decide⟩ ∧
      NamedZone.utc.toZone.ceiling? .standard (some .month) ⟨1718473500000000000, by decide⟩ =
          some ⟨1719792000000000000, by decide⟩ ∧
        (1719771300000000000 : Int) = 1719792000000000000 - 20700 * secondLength := by
  have begun : NamedZone.asiaKathmandu.toZone.truncate? .standard (some .month)
      ⟨1718452800000000000, by decide⟩ = some ⟨1717179300000000000, by decide⟩ := by
    decide +kernel
  have found : NamedZone.asiaKathmandu.toZone.ceiling? .standard (some .month)
      ⟨1718452800000000000, by decide⟩ = some ⟨1719771300000000000, by decide⟩ := by
    decide +kernel
  have universalFound : NamedZone.utc.toZone.ceiling? .standard (some .month)
      ⟨1718473500000000000, by decide⟩ = some ⟨1719792000000000000, by decide⟩ := by
    decide +kernel
  have keeps : NamedZone.asiaKathmandu.toZone.KeepsOffset 20700
      [⟨1718452800000000000, by decide⟩, ⟨1717179300000000000, by decide⟩,
        ⟨1719771300000000000, by decide⟩] := by
    intro first listed last _ between late _
    have earliest : 1717179300000000000 ≤ first.nanoseconds := by
      simp only [List.mem_cons, List.not_mem_nil, or_false] at listed
      rcases listed with rfl | rfl | rfl <;> decide
    have since : 504901800 ≤ between.seconds := by
      unfold dayLength at late
      unfold Instant.seconds secondLength
      omega
    have beforehand : -1577943676 ≤ between.seconds := Int.le_trans (by decide) since
    exact (offsetAfter_of_le beforehand).trans (offsetAfter_of_le since)
  exact ⟨found, universalFound, (agrees_with_universal_time (by decide +kernel) .month 20700
    (by decide)).2.1 _ _ _ _ keeps begun found universalFound⟩

end TimeRange.Zone
