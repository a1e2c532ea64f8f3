import TimeRange.Proofs.Zone.FirstShowing

/-!
# Rounding down twice

The start of a day or a longer bucket is located by its midnight, and rounding it
down again changes nothing. The start of a minute or an hour is found by going
back as long as has passed of it on the wall clock. If the offset has changed in
that time by something other than whole minutes or hours, then the clock is not
at the start of a minute or an hour there, and rounding down again leads further
back.

The main statement is `truncate?_truncate?_or_cut`.
-/

namespace TimeRange

open Calendar

def Change.KeepsLength (change : Change) (length : Int) : Prop :=
  change.jump * secondLength % length = 0

instance (change : Change) (length : Int) : Decidable (change.KeepsLength length) :=
  inferInstanceAs (Decidable (_ = _))

theorem Change.keepsLength_second (change : Change) : change.KeepsLength secondLength :=
  Int.mul_emod_left _ _

namespace Zone

variable {zone : Zone} {convention : Convention} {unit : TimeUnit} {instant start : Instant}
  {length : Int} (exact : unit.measure = .exact length)

include exact

/-- At the start of a bucket the wall clock shows a whole number of lengths, but for a change of offset. -/
theorem wallNanoseconds_of_bucketStart?
    (found : zone.bucketStart? convention unit instant = some start) :
    zone.wallNanoseconds start
      = zone.wallNanoseconds instant - zone.wallNanoseconds instant % length
        + (zone.offsetAt start - zone.offsetAt instant) * secondLength := by
  have startAt := ((bucketStart?_of_exact_eq_some_iff exact).mp found).2
  have onWall : zone.wallNanoseconds instant
      = instant.nanoseconds + zone.offsetAt instant * secondLength := rfl
  rw [wallNanoseconds, startAt, Int.sub_mul]
  omega

theorem bucketStart?_again_of_offset_eq
    (found : zone.bucketStart? convention unit instant = some start)
    (same : zone.offsetAt start = zone.offsetAt instant) :
    zone.bucketStart? convention unit start = some start := by
  have inside := ((bucketStart?_of_exact_eq_some_iff exact).mp found).1
  have floored := @inCalendar_floor_of_exact convention unit length exact _ inside
  rw [Convention.floor_grid_of_exact convention exact] at floored
  have shown := wallNanoseconds_of_bucketStart? exact found
  rw [same, Int.sub_self, Int.zero_mul, Int.add_zero] at shown
  refine (bucketStart?_of_exact_eq_some_iff exact).mpr ⟨shown ▸ floored, ?_⟩
  rw [shown, Int.emod_eq_zero_of_dvd Int.dvd_self_sub_emod, Int.sub_zero]

theorem Steady.exists_change_of_bucketStart? (steady : zone.Steady)
    (found : zone.bucketStart? convention unit instant = some start)
    (differ : zone.offsetAt start ≠ zone.offsetAt instant) :
    ∃ change ∈ zone.changes, start.seconds < change.second ∧ change.second ≤ instant.seconds
      ∧ zone.offsetAt start = change.before ∧ zone.offsetAt instant = change.after := by
  obtain ⟨before, after⟩ := bucketStart?_bounds_of_exact exact found
  have hour := (TimeUnit.length_bounds exact).2
  apply SteadyFrom.exists_change_of_ne steady _ _ differ
  · exact Int.ediv_le_ediv (by decide) before
  · simp only [Instant.seconds, secondLength] at hour ⊢
    omega

/-- Across a change, rounding down again goes back by what the change leaves over of whole lengths. -/
theorem Steady.bucketStart?_again_of_change (steady : zone.Steady) (quiet : zone.QuietAtFirst)
    (found : zone.bucketStart? convention unit instant = some start) {change : Change}
    (member : change ∈ zone.changes) (early : start.seconds < change.second)
    (late : change.second ≤ instant.seconds) (before : zone.offsetAt start = change.before)
    (after : zone.offsetAt instant = change.after) :
    ∃ again, zone.bucketStart? convention unit start = some again
      ∧ again.nanoseconds = start.nanoseconds - -change.jump * secondLength % length := by
  obtain ⟨_, near⟩ := bucketStart?_bounds_of_exact exact found
  obtain ⟨positive, hour⟩ := TimeUnit.length_bounds exact
  have opening := quiet change member
  have closing := (SteadyFrom.change_bounds steady member).2.2
  have bounds := steady.offsetAtSecond_bounds start.seconds
  have back : zone.offsetAt start - zone.offsetAt instant = -change.jump := by
    rw [before, after, Change.jump]
    omega
  have cut : zone.wallNanoseconds start % length = -change.jump * secondLength % length := by
    obtain ⟨whole, wholeEq⟩ : length ∣ zone.wallNanoseconds instant
        - zone.wallNanoseconds instant % length := Int.dvd_self_sub_emod
    rw [wallNanoseconds_of_bucketStart? exact found, back, wholeEq, Int.add_comm,
      Int.add_mul_emod_self_left]
  -- changes are made far from the ends of the calendar, so that neither the clock nor the result is outside
  have covered : InCalendar (zone.wallNanoseconds start) := by
    unfold wallNanoseconds offsetAt
    simp only [InCalendar, Instant.seconds, secondLength] at *
    omega
  have inside : InCalendar (start.nanoseconds - -change.jump * secondLength % length) := by
    have lower := Int.emod_nonneg (-change.jump * secondLength) (Int.ne_of_gt positive)
    have upper := Int.emod_lt_of_pos (-change.jump * secondLength) positive
    simp only [InCalendar, Instant.seconds, secondLength] at *
    omega
  exact ⟨⟨_, inside⟩, (bucketStart?_of_exact_eq_some_iff exact).mpr ⟨covered, by rw [cut]⟩, rfl⟩

omit exact

/-- A change that leaves something over of whole lengths is told by a unit longer than a second. -/
theorem unit_of_not_keepsLength {change : Change} (exact : unit.measure = .exact length)
    (cuts : ¬ change.KeepsLength length) : unit = .minute ∨ unit = .hour := by
  cases unit <;> cases exact
  case second => exact absurd change.keepsLength_second cuts
  case minute => exact .inl rfl
  case hour => exact .inr rfl

/--
In every zone of the catalogue, rounding down is idempotent, unless an instant is
rounded down to a minute or an hour across a change of offset by something other
than whole minutes or hours. Then rounding down again leads to an earlier instant,
by what is left over.
-/
theorem truncate?_truncate?_or_cut {named : NamedZone} (member : named ∈ NamedZone.catalogue)
    {convention : Convention} {unit : TimeUnit} {instant start : Instant}
    (found : named.toZone.truncate? convention (some unit) instant = some start) :
    named.toZone.truncate? convention (some unit) start = some start ∨
      (unit = .minute ∨ unit = .hour) ∧
        ∃ length, unit.measure = .exact length ∧
          ∃ change ∈ named.toZone.changes, start.seconds < change.second
            ∧ change.second ≤ instant.seconds ∧ ¬ change.KeepsLength length
            ∧ ∃ again, named.toZone.truncate? convention (some unit) start = some again
              ∧ again.nanoseconds < start.nanoseconds
              ∧ again.nanoseconds = start.nanoseconds - -change.jump * secondLength % length := by
  have steady := steady_of_mem_catalogue named member
  by_cases calendar : unit.measure.IsCalendar
  · exact .inl (steady.truncate?_truncate? calendar found)
  · obtain ⟨length, exact⟩ := Measure.exists_eq_exact calendar
    by_cases same : named.toZone.offsetAt start = named.toZone.offsetAt instant
    · exact .inl (bucketStart?_again_of_offset_eq exact found same)
    · obtain ⟨change, listed, early, late, before, after⟩ :=
        steady.exists_change_of_bucketStart? exact found same
      obtain ⟨again, roundedAgain, againAt⟩ := steady.bucketStart?_again_of_change exact
        (quietAtFirst_of_mem_catalogue named member) found listed early late before after
      have leftOver : -change.jump * secondLength % length = 0 ↔ change.KeepsLength length := by
        rw [Change.KeepsLength, Int.neg_mul, ← Int.dvd_iff_emod_eq_zero, ← Int.dvd_iff_emod_eq_zero,
          Int.dvd_neg]
      by_cases keeps : change.KeepsLength length
      · have unmoved : again = start := by
          apply Instant.eq_of_nanoseconds_eq
          rw [againAt, leftOver.mpr keeps, Int.sub_zero]
        rw [unmoved] at roundedAgain
        exact .inl roundedAgain
      · have positive := (TimeUnit.length_bounds exact).1
        have remainder := Int.emod_nonneg (-change.jump * secondLength) (Int.ne_of_gt positive)
        have nonzero := mt leftOver.mp keeps
        exact .inr ⟨unit_of_not_keepsLength exact keeps, length, exact, change, listed, early, late,
          keeps, again, roundedAgain, by omega, againAt⟩

/--
In Monrovia, where the clock was moved forward by 44 minutes and a half at the
midnight that began the seventh of January 1972, the first minute after that is
rounded down to half a minute past a quarter past eleven, and that to eleven.
-/
theorem truncate?_truncate?_or_cut_of_monrovia :
    NamedZone.africaMonrovia.toZone.truncate? .standard (some .hour) ⟨63593130000000000, by decide⟩
        = some ⟨63590400000000000, by decide⟩ ∧
      ∃ again, NamedZone.africaMonrovia.toZone.truncate? .standard (some .hour)
          ⟨63590400000000000, by decide⟩ = some again
        ∧ again.nanoseconds < 63590400000000000 := by
  have found : NamedZone.africaMonrovia.toZone.truncate? .standard (some .hour)
      ⟨63593130000000000, by decide⟩ = some ⟨63590400000000000, by decide⟩ := by
    decide +kernel
  have changed : NamedZone.africaMonrovia.toZone.truncate? .standard (some .hour)
      ⟨63590400000000000, by decide⟩ ≠ some ⟨63590400000000000, by decide⟩ := by
    decide +kernel
  refine ⟨found, ?_⟩
  rcases truncate?_truncate?_or_cut (by decide +kernel) found with
    same | ⟨_, _, _, _, _, _, _, _, again, rounded, earlier, _⟩
  · exact absurd same changed
  · exact ⟨again, rounded, earlier⟩

/--
On Lord Howe Island, where the clock was set back from two to half past one on
the seventh of April 2024, twenty to two is rounded down to half past one before
the change, and that to one.
-/
theorem truncate?_twice_across_half_hour :
    ∃ instant start again : Instant,
      NamedZone.australiaLordHowe.toZone.truncate? .standard (some .hour) instant = some start ∧
        NamedZone.australiaLordHowe.toZone.truncate? .standard (some .hour) start = some again ∧
        again ≠ start := by
  refine ⟨⟨1712416200000000000, by decide⟩, ⟨1712413800000000000, by decide⟩,
    ⟨1712412000000000000, by decide⟩, ?_, ?_, ?_⟩ <;> decide +kernel

end Zone

end TimeRange
