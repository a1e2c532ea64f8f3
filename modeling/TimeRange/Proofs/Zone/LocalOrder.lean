import TimeRange.Proofs.Zone.LocalBucket

/-!
# The order of instants and of wall clocks

A later instant may have an earlier wall clock, but only if the clock has been
set back in between. So an instant that is located is not after any instant at
which the clock has reached the time that it was located by, unless that time is
skipped and the clock was moved forward before it. In the catalogue no midnight
is skipped in this way.

Hence rounding down never leads to a later instant. Rounding up leads to an
earlier one only if the clock has been set back over the midnight at which the
bucket ends, since that midnight is then located where it is shown first.

The main statements are `Steady.startOfDay?_mono`, `Steady.truncate?_le` and
`Steady.le_ceiling?`.
-/

namespace TimeRange

open Calendar

namespace Change

/-- Whether the wall clock shows a second twice, since it is set back over it. -/
def Repeats (change : Change) (wallSecond : Int) : Prop :=
  change.second + change.after ≤ wallSecond ∧ wallSecond < change.second + change.before

instance (change : Change) (wallSecond : Int) : Decidable (change.Repeats wallSecond) :=
  inferInstanceAs (Decidable (_ ∧ _))

def SkipsFromMidnight (change : Change) : Prop :=
  change.second + change.after ≤ ((change.second + change.before) / 86400 + 1) * 86400

instance (change : Change) : Decidable change.SkipsFromMidnight :=
  inferInstanceAs (Decidable (_ ≤ _))

theorem second_add_before_of_skips {change : Change} (prompt : change.SkipsFromMidnight) {day : Int}
    (skips : change.Skips (day * 86400)) : change.second + change.before = day * 86400 := by
  obtain ⟨begun, ends⟩ := skips
  unfold SkipsFromMidnight at prompt
  omega

end Change

namespace Zone

/-- Whether a skip that includes a midnight always begins with it. -/
def SkipsFromMidnight (zone : Zone) : Prop :=
  ∀ change ∈ zone.changes, change.SkipsFromMidnight

instance (zone : Zone) : Decidable zone.SkipsFromMidnight :=
  inferInstanceAs (Decidable (∀ change ∈ zone.changes, change.SkipsFromMidnight))

theorem skipsFromMidnight_of_mem_catalogue :
    ∀ zone ∈ NamedZone.catalogue, zone.toZone.SkipsFromMidnight := by
  decide +kernel

/-! ## Along a history -/

section History

variable {start? : Option Int} {offset wallSecond : Int} {transitions : List Transition}

theorem SteadyFrom.before_bounds (steady : SteadyFrom start? offset transitions) {change : Change}
    (member : change ∈ changesFrom offset transitions) :
    -86400 ≤ change.before ∧ change.before ≤ 86400 := by
  induction transitions generalizing start? offset with
  | nil => cases member
  | cons next later ih =>
      rcases List.mem_cons.mp member with rfl | behind
      · exact steady.1
      · exact ih steady.2.2.2 behind

/-- Before a change the wall clock has not reached the time that it shows when it is changed. -/
theorem SteadyFrom.wall_lt_of_mem_changesFrom (steady : SteadyFrom start? offset transitions)
    {change : Change} (member : change ∈ changesFrom offset transitions) {second : Int}
    (early : second < change.second) :
    second + offsetAfter offset transitions second < change.second + change.before := by
  induction transitions generalizing start? offset with
  | nil => cases member
  | cons next later ih =>
      have rest := steady.2.2.2
      rcases List.mem_cons.mp member with rfl | behind
      · rw [offsetAfter_of_lt early]
        exact Int.add_lt_add_right early offset
      · by_cases first : second < next.second
        · have bounds := steady.1
          have changeBounds := rest.before_bounds behind
          have apart := rest.second_of_mem_changesFrom behind
          rw [offsetAfter_of_lt first]
          omega
        · rw [offsetAfter_of_le (Int.not_lt.mp first)]
          exact ih rest behind

/-- A time that has been skipped is not shown later on. -/
theorem SteadyFrom.start_le_of_find?_eq_some {start : Int}
    (steady : SteadyFrom (some start) offset transitions) {span : Span}
    (found : (spansFrom (some start) offset transitions).find? (·.shows wallSecond) = some span) :
    start + offset ≤ wallSecond := by
  obtain ⟨begun, holds, _⟩ := steady.of_find?_eq_some found
  have reached := begun start rfl
  by_cases near : wallSecond - span.offset < start + 172800
  · rw [steady.offsetAfter_of_near near] at holds
    omega
  · have bounds := steady.offset_bounds
    have spanBounds := steady.offsetAfter_bounds (wallSecond - span.offset)
    omega

/-- Before a time is shown first, the wall clock shows earlier times. -/
theorem SteadyFrom.wall_lt_of_find?_eq_some (steady : SteadyFrom start? offset transitions)
    {span : Span}
    (found : (spansFrom start? offset transitions).find? (·.shows wallSecond) = some span)
    {second : Int} (early : second < wallSecond - span.offset) :
    second + offsetAfter offset transitions second < wallSecond := by
  induction transitions generalizing start? offset with
  | nil =>
      simp only [spansFrom, List.find?_singleton, Option.ite_none_right_eq_some] at found
      cases found.2
      exact Int.add_lt_of_lt_sub_right early
  | cons next later ih =>
      have begun : ∀ start ∈ start?, start ≤ wallSecond - offset := by
        intro start known
        cases known
        exact Int.le_sub_right_of_add_le (steady.start_le_of_find?_eq_some found)
      rw [spansFrom, List.find?_cons] at found
      split at found
      · rename_i shown
        cases found
        have onTime := (shows_first_iff.mp shown).2
        rw [offsetAfter_of_lt (Int.lt_trans early onTime)]
        exact Int.add_lt_of_lt_sub_right early
      · rename_i hidden
        have late : ¬ wallSecond - offset < next.second := by
          intro onTime
          have shown := shows_first_iff.mpr ⟨begun, onTime⟩
          rw [hidden] at shown
          cases shown
        by_cases first : second < next.second
        · rw [offsetAfter_of_lt first]
          omega
        · rw [offsetAfter_of_le (Int.not_lt.mp first)]
          exact ih steady.2.2.2 found

/-- Two offsets within two days of each other are those before and after a change in between. -/
theorem SteadyFrom.exists_change_of_ne (steady : SteadyFrom start? offset transitions)
    {first last : Int} (ordered : first ≤ last) (near : last ≤ first + 172800)
    (differ : offsetAfter offset transitions first ≠ offsetAfter offset transitions last) :
    ∃ change ∈ changesFrom offset transitions, first < change.second ∧ change.second ≤ last
      ∧ offsetAfter offset transitions first = change.before
      ∧ offsetAfter offset transitions last = change.after := by
  induction transitions generalizing start? offset with
  | nil => exact absurd rfl differ
  | cons next later ih =>
      have rest := steady.2.2.2
      by_cases early : first < next.second
      · by_cases lastEarly : last < next.second
        · rw [offsetAfter_of_lt early, offsetAfter_of_lt lastEarly] at differ
          exact absurd rfl differ
        · rw [offsetAfter_of_lt early, offsetAfter_of_le (Int.not_lt.mp lastEarly)]
          exact ⟨_, List.mem_cons_self, early, Int.not_lt.mp lastEarly, rfl,
            rest.offsetAfter_of_near (show last < next.second + 172800 by omega)⟩
      · have late := Int.not_lt.mp early
        rw [offsetAfter_of_le late, offsetAfter_of_le (by omega)] at differ ⊢
        obtain ⟨change, behind, between⟩ := ih rest differ
        exact ⟨change, List.mem_cons_of_mem _ behind, between⟩

/-- A wall clock that shows an earlier time than before has been set back by a change in between. -/
theorem SteadyFrom.exists_change_between (steady : SteadyFrom start? offset transitions)
    {first last : Int} (ordered : first < last)
    (back : last + offsetAfter offset transitions last
      < first + offsetAfter offset transitions first) :
    ∃ change ∈ changesFrom offset transitions, first < change.second ∧ change.second ≤ last
      ∧ offsetAfter offset transitions first = change.before
      ∧ offsetAfter offset transitions last = change.after := by
  have firstBounds := steady.offsetAfter_bounds first
  have lastBounds := steady.offsetAfter_bounds last
  have differ : offsetAfter offset transitions first ≠ offsetAfter offset transitions last := by
    intro same
    omega
  exact steady.exists_change_of_ne (Int.le_of_lt ordered) (by omega) differ

end History

/-! ## Located instants -/

variable {zone : Zone} {convention : Convention} {unit : TimeUnit}
  {wall : WallTime} {instant located start stop : Instant}

/-- At an instant that is located the wall clock has reached the time that it was located by. -/
theorem Steady.le_wallNanoseconds (steady : zone.Steady) (found : zone.locate? wall = some located) :
    wall.nanoseconds ≤ zone.wallNanoseconds located := by
  obtain ⟨landed, read, _, moved⟩ := steady.locates found
  rw [← wallTime?_eq_some_iff.mp read]
  rcases moved with rfl | ⟨change, member, skips, landedAt⟩
  · exact Int.le_refl _
  · have forward := (steady.jump_bounds member skips).1
    rw [landedAt]
    unfold secondLength
    omega

/-- A time that the wall clock shows is located where it is shown first. -/
theorem Steady.locate?_le_of_shown (steady : zone.Steady) {span : Span}
    (shown : zone.spanShowing? wall = some span) (found : zone.locate? wall = some located)
    (reached : wall.nanoseconds ≤ zone.wallNanoseconds instant) :
    located.nanoseconds ≤ instant.nanoseconds := by
  apply Int.not_lt.mp
  intro early
  simp only [locate?, shown, Instant.ofNanoseconds?_eq_some_iff] at found
  have offsetThere := (steady.of_spanShowing?_eq_some shown).1
  have onWall : ∀ second, second < wall.seconds - span.offset →
      second + zone.offsetAtSecond second < wall.seconds :=
    fun _ => SteadyFrom.wall_lt_of_find?_eq_some steady shown
  unfold wallNanoseconds offsetAt at reached
  by_cases same : instant.seconds = wall.seconds - span.offset
  · rw [same, offsetThere] at reached
    omega
  · have earlier := onWall instant.seconds
    simp only [Instant.seconds, WallTime.seconds, secondLength] at *
    omega

/-- A skipped time with which the skip begins is located at the change that skips it. -/
theorem Steady.locate?_le_of_skipped (steady : zone.Steady)
    (prompt : ∀ change ∈ zone.changes, change.Skips wall.seconds →
      wall.nanoseconds = (change.second + change.before) * secondLength)
    (hidden : zone.spanShowing? wall = none) (found : zone.locate? wall = some located)
    (reached : wall.nanoseconds ≤ zone.wallNanoseconds instant) :
    located.nanoseconds ≤ instant.nanoseconds := by
  obtain ⟨change, member, skips, seconds, reads⟩ := steady.of_spanShowing?_eq_none hidden found
  have begins := prompt change member skips
  have wholeSecond := (wallNanoseconds_eq_iff.mp reads).2
  apply Int.not_lt.mp
  intro early
  have before : instant.seconds < change.second := by
    simp only [Instant.seconds, Instant.subsecond, WallTime.seconds, secondLength] at *
    omega
  have unreached := SteadyFrom.wall_lt_of_mem_changesFrom steady member before
  change _ + zone.offsetAtSecond _ < _ at unreached
  simp only [wallNanoseconds, offsetAt, Instant.seconds, secondLength] at *
  omega

theorem Steady.startOfDay?_le (steady : zone.Steady) (prompt : zone.SkipsFromMidnight) {day : Int}
    (found : zone.startOfDay? day = some start)
    (reached : day * dayLength ≤ zone.wallNanoseconds instant) :
    start.nanoseconds ≤ instant.nanoseconds := by
  obtain ⟨midnight, midnightAt, located⟩ := startOfDay?_eq_some_iff.mp found
  rw [← midnightAt] at reached
  cases shown : zone.spanShowing? midnight with
  | some span => exact steady.locate?_le_of_shown shown located reached
  | none =>
      refine steady.locate?_le_of_skipped ?_ shown located reached
      intro change member skips
      have second : midnight.seconds = day * 86400 := by
        simp only [WallTime.seconds, midnightAt, dayLength, secondLength]
        omega
      rw [second] at skips
      rw [Change.second_add_before_of_skips (prompt change member) skips, midnightAt]
      unfold dayLength secondLength
      omega

theorem Steady.startOfDay?_mono (steady : zone.Steady) (prompt : zone.SkipsFromMidnight)
    {first last : Int} (ordered : first ≤ last) (firstFound : zone.startOfDay? first = some start)
    (lastFound : zone.startOfDay? last = some stop) : start.nanoseconds ≤ stop.nanoseconds := by
  apply steady.startOfDay?_le prompt firstFound
  obtain ⟨midnight, midnightAt, located⟩ := startOfDay?_eq_some_iff.mp lastFound
  have reached := steady.le_wallNanoseconds located
  rw [midnightAt] at reached
  exact Int.le_trans (Int.mul_le_mul_of_nonneg_right ordered (by decide)) reached

/--
If the wall clock has reached a second at one instant and not at another, then
the other one is earlier, unless the clock has been set back over the second.
-/
theorem Steady.le_or_repeats (steady : zone.Steady) {bound : Int}
    (short : zone.wallNanoseconds instant < bound * secondLength)
    (reached : bound * secondLength ≤ zone.wallNanoseconds stop) :
    instant.nanoseconds ≤ stop.nanoseconds ∨
      ∃ change ∈ zone.changes, change.second ≤ instant.seconds
        ∧ change.Repeats (zone.wallNanoseconds instant / secondLength) ∧ change.Repeats bound := by
  have onWall : instant.seconds + zone.offsetAtSecond instant.seconds
      = zone.wallNanoseconds instant / secondLength := (wallNanoseconds_eq_iff.mp rfl).1
  have onStopWall : stop.seconds + zone.offsetAtSecond stop.seconds
      = zone.wallNanoseconds stop / secondLength := (wallNanoseconds_eq_iff.mp rfl).1
  have back : zone.wallNanoseconds instant / secondLength < bound :=
    Int.ediv_lt_of_lt_mul (by decide) short
  have there : bound ≤ zone.wallNanoseconds stop / secondLength :=
    (Int.le_ediv_iff_mul_le (by decide)).mpr reached
  by_cases ordered : instant.nanoseconds ≤ stop.nanoseconds
  · exact .inl ordered
  · right
    have later : stop.seconds < instant.seconds := by
      have notBefore : stop.seconds ≤ instant.seconds :=
        Int.ediv_le_ediv (by decide) (Int.le_of_lt (Int.not_le.mp ordered))
      apply Int.not_le.mp
      intro notAfter
      have same : instant.seconds = stop.seconds := Int.le_antisymm notAfter notBefore
      rw [same] at onWall
      omega
    obtain ⟨change, member, after, notAfter, before, since⟩ :=
      SteadyFrom.exists_change_between steady later
        (show instant.seconds + zone.offsetAtSecond instant.seconds
          < stop.seconds + zone.offsetAtSecond stop.seconds by omega)
    change zone.offsetAtSecond stop.seconds = change.before at before
    change zone.offsetAtSecond instant.seconds = change.after at since
    refine ⟨change, member, notAfter, ?_, ?_⟩
    · unfold Change.Repeats
      omega
    · unfold Change.Repeats
      omega

/-! ## Rounding -/

theorem bucketStart?_bounds_of_exact {length : Int} (exact : unit.measure = .exact length)
    (found : zone.bucketStart? convention unit instant = some start) :
    start.nanoseconds ≤ instant.nanoseconds ∧ instant.nanoseconds < start.nanoseconds + length := by
  have startAt := ((bucketStart?_of_exact_eq_some_iff exact).mp found).2
  have positive := (TimeUnit.length_bounds exact).1
  have lower := Int.emod_nonneg (zone.wallNanoseconds instant) (Int.ne_of_gt positive)
  have upper := Int.emod_lt_of_pos (zone.wallNanoseconds instant) positive
  omega

theorem Steady.truncate?_le (steady : zone.Steady) (prompt : zone.SkipsFromMidnight)
    (found : zone.truncate? convention (some unit) instant = some start) :
    start.nanoseconds ≤ instant.nanoseconds := by
  change zone.bucketStart? convention unit instant = some start at found
  by_cases calendar : unit.measure.IsCalendar
  · obtain ⟨wall, read, _⟩ :=
      Option.bind_eq_some_iff.mp (bucketStart?_of_isCalendar calendar ▸ found)
    rw [bucketStart?_eq_startOfDay? calendar read] at found
    apply steady.startOfDay?_le prompt found
    have below := (convention.dateGrid unit).floor_le wall.day
    rw [← wallTime?_eq_some_iff.mp read]
    exact (Int.le_ediv_iff_mul_le (by decide)).mp below
  · obtain ⟨length, exact⟩ := Measure.exists_eq_exact calendar
    exact (bucketStart?_bounds_of_exact exact found).1

/-- One unit after the start of a bucket the wall clock has reached the start of the next one. -/
theorem Steady.le_wallNanoseconds_of_shift?_startOfDay? (steady : zone.Steady)
    (calendar : unit.measure.IsCalendar) {bucket : Int}
    (begun : zone.startOfDay? ((convention.dateGrid unit).start bucket) = some start)
    (found : zone.shift? unit 1 start = some stop) :
    (convention.dateGrid unit).start (bucket + 1) * 86400 * secondLength
      ≤ zone.wallNanoseconds stop := by
  have whole : (convention.dateGrid unit).start (bucket + 1) * 86400 * secondLength
      = (convention.dateGrid unit).start (bucket + 1) * dayLength := Int.mul_assoc _ _ _
  rw [whole]
  rcases steady.of_shift?_startOfDay? calendar begun found with next | ⟨change, member, skips, carried⟩
  · obtain ⟨midnight, midnightAt, located⟩ := startOfDay?_eq_some_iff.mp next
    rw [← midnightAt]
    exact steady.le_wallNanoseconds located
  · obtain ⟨aim, aimed, located⟩ := Option.bind_eq_some_iff.mp carried
    have forward := (steady.jump_bounds member skips).1
    have reached := steady.le_wallNanoseconds located
    rw [WallTime.ofNanoseconds?_eq_some_iff.mp aimed] at reached
    unfold secondLength at reached
    omega

/--
Whether the clock has been set back, before an instant, over the midnight at
which the instant's bucket ends. The clock then shows a time at the instant that
it has shown before, and so it will with that midnight.
-/
def EndRepeats (zone : Zone) (convention : Convention) (unit : TimeUnit) (instant : Instant) : Prop :=
  unit.measure.IsCalendar ∧ ∃ wall, zone.wallTime? instant = some wall ∧
    ∃ change ∈ zone.changes, change.second ≤ instant.seconds ∧ change.Repeats wall.seconds
      ∧ change.Repeats ((convention.dateGrid unit).after 1 wall.day * 86400)

/--
Rounding up does not lead to an earlier instant, unless the clock has been set
back over the midnight at which the bucket ends.
-/
theorem Steady.le_ceiling? (steady : zone.Steady)
    (found : zone.ceiling? convention (some unit) instant = some stop) :
    instant.nanoseconds ≤ stop.nanoseconds ∨ zone.EndRepeats convention unit instant := by
  change zone.bucketCeiling? convention unit instant = some stop at found
  simp only [bucketCeiling?, Option.bind_eq_bind, Option.bind_eq_some_iff] at found
  obtain ⟨start, rounded, found⟩ := found
  split at found
  · cases found
    exact .inl (Int.le_refl _)
  · by_cases calendar : unit.measure.IsCalendar
    · obtain ⟨wall, read, _⟩ :=
        Option.bind_eq_some_iff.mp (bucketStart?_of_isCalendar calendar ▸ rounded)
      rw [bucketStart?_eq_startOfDay? calendar read] at rounded
      have within := (convention.dateGrid unit).lt_after_one wall.day
      have short : zone.wallNanoseconds instant
          < (convention.dateGrid unit).after 1 wall.day * 86400 * secondLength := by
        rw [← wallTime?_eq_some_iff.mp read]
        generalize (convention.dateGrid unit).after 1 wall.day = next at within ⊢
        unfold WallTime.day dayLength at within
        unfold secondLength
        omega
      have reached := steady.le_wallNanoseconds_of_shift?_startOfDay? calendar rounded found
      rcases steady.le_or_repeats short reached with ordered | ⟨change, member, since, repeats⟩
      · exact .inl ordered
      · rw [← wallTime?_eq_some_iff.mp read] at repeats
        exact .inr ⟨calendar, wall, read, change, member, since, repeats⟩
    · left
      obtain ⟨length, exact⟩ := Measure.exists_eq_exact calendar
      have within := (bucketStart?_bounds_of_exact exact rounded).2
      have stopAt := (shift?_of_exact_eq_some_iff exact).mp found
      omega

end Zone

end TimeRange
