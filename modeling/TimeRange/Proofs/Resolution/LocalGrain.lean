import TimeRange.Proofs.Resolution.WholeBuckets
import TimeRange.Proofs.Zone.LocalBucket

/-!
# Grains on local clocks

On the clocks of a zone of the catalogue a grain of days or months names the
bucket that it counts to, or the bucket after it. The count is taken on the wall
clock first, at the time of day of the present. Only when a change of offset
skips that time and carries the clock past the end of the bucket is it the
bucket after.

The main statement is `range?_starts_in_counted_bucket`.
-/

namespace TimeRange.Expression

open Calendar

/--
A range that starts with a grain and counts from the present starts with the
bucket that lies as many buckets after the one of the present as the grain
counts, where the zone locates the midnight of its first day, or else with the
bucket after that one. The latter only happens where a change skips the time of
day of the present and carries it past the end of the bucket.
-/
theorem range?_starts_in_counted_bucket {named : NamedZone} (member : named ∈ NamedZone.catalogue)
    {unit : TimeUnit} (calendar : unit.measure.IsCalendar) {count? : Option Int}
    {expression : Expression} (clocks : expression.zone = named) (absent : expression.asOf? = none)
    (start : expression.start = .ofBase (.grain ⟨count?, unit⟩))
    (running : expression.stop.base ≠ .latest) {context : Context} {range : Range}
    (found : expression.range? context = some range) :
    ∃ today, named.toZone.wallTime? context.now = some today ∧
      (named.toZone.startOfDay?
          ((context.convention.dateGrid unit).after (count?.getD 0) today.day) = some range.start ∨
        ∃ change ∈ named.toZone.changes,
          change.Skips (unit.measure.shift (count?.getD 0) today.nanoseconds / secondLength) ∧
            (context.convention.dateGrid unit).after (count?.getD 0 + 1) today.day * dayLength
              ≤ unit.measure.shift (count?.getD 0) today.nanoseconds + change.jump * secondLength ∧
            named.toZone.startOfDay?
              ((context.convention.dateGrid unit).after (count?.getD 0 + 1) today.day)
                = some range.start) := by
  have steady := Zone.steady_of_mem_catalogue named member
  have located := (range?_from_now absent running found).1
  rw [start, locate?_ofBase_grain, clocks, Option.bind_eq_some_iff] at located
  obtain ⟨moved, shifted, rounded⟩ := located
  change named.toZone.bucketStart? context.convention unit moved = some range.start at rounded
  rcases of_grain_shift? shifted with ⟨still, rfl⟩ | shifted
  · have read := rounded
    rw [Zone.bucketStart?_of_isCalendar calendar, Option.bind_eq_some_iff] at read
    obtain ⟨today, read, _⟩ := read
    rw [Zone.bucketStart?_eq_startOfDay? calendar read] at rounded
    refine ⟨today, read, .inl ?_⟩
    rwa [still, Grid.after_zero]
  · have read := shifted
    rw [Zone.shift?_of_isCalendar calendar, Option.bind_eq_some_iff] at read
    obtain ⟨today, read, _⟩ := read
    exact ⟨today, read, steady.bucketStart?_of_shift? calendar read shifted rounded⟩

/-- In Berlin, on the last day of March 2024, when the clock skips an hour, the month before is February. -/
theorem range?_starts_in_counted_bucket_of_february :
    ∃ expression range, parse "-1M,now@\x7bEurope/Berlin\x7d" = .ok expression ∧
      expression.range? (.atPresent ⟨1711886400000000000, by decide⟩) = some range ∧
        NamedZone.europeBerlin.toZone.startOfDay? 19754 = some range.start := by
  have lexes : Lexes "-1M,now@\x7bEurope/Berlin\x7d"
      [.number (-1), .unit .month, .comma, .now, .atSign, .zone "Europe/Berlin"] := by
    unfold Lexes
    decide +kernel
  have read : parse "-1M,now@\x7bEurope/Berlin\x7d" = .ok ⟨.ofBase (.grain ⟨some (-1), .month⟩), .now,
      none, some ⟨none, some NamedZone.europeBerlin⟩, true⟩ := parse_of_draft lexes rfl
  have found : (Expression.mk (.ofBase (.grain ⟨some (-1), .month⟩)) .now none
      (some ⟨none, some NamedZone.europeBerlin⟩) true).range?
        (.atPresent ⟨1711886400000000000, by decide⟩) =
      some ⟨⟨1706742000000000000, by decide⟩, ⟨1711886400000000000, by decide⟩⟩ := by
    decide +kernel
  have calendar : TimeUnit.month.measure.IsCalendar := trivial
  have onWall : NamedZone.europeBerlin.toZone.wallTime? ⟨1711886400000000000, by decide⟩
      = some ⟨1711893600000000000, by decide⟩ := by
    decide +kernel
  have unskipped : ∀ change ∈ NamedZone.europeBerlin.toZone.changes,
      ¬ change.Skips (TimeUnit.month.measure.shift (-1) 1711893600000000000 / secondLength) := by
    decide +kernel
  refine ⟨_, _, read, found, ?_⟩
  obtain ⟨today, shown, started | ⟨change, member, skips, _⟩⟩ :=
    range?_starts_in_counted_bucket (by decide +kernel) calendar rfl rfl rfl Base.noConfusion found
  · cases onWall.symm.trans shown
    exact started
  · cases onWall.symm.trans shown
    exact absurd skips (unskipped change member)

/--
In Tehran, on the evening of the 28th of March 1977, the time a week before is
skipped, since the 21st ends an hour early. The range of the seven days before
starts with the 22nd.
-/
theorem range?_starts_past_counted_bucket :
    ∃ expression range today, parse "-7d,now@\x7bAsia/Tehran\x7d" = .ok expression ∧
      expression.range? (.atPresent ⟨228423600000000000, by decide⟩) = some range ∧
        NamedZone.asiaTehran.toZone.wallTime? ⟨228423600000000000, by decide⟩ = some today ∧
        NamedZone.asiaTehran.toZone.startOfDay? (today.day - 6) = some range.start ∧
        NamedZone.asiaTehran.toZone.startOfDay? (today.day - 7) ≠ some range.start := by
  have lexes : Lexes "-7d,now@\x7bAsia/Tehran\x7d"
      [.number (-7), .unit .day, .comma, .now, .atSign, .zone "Asia/Tehran"] := by
    unfold Lexes
    decide +kernel
  refine ⟨⟨.ofBase (.grain ⟨some (-7), .day⟩), .now, none, some ⟨none, some NamedZone.asiaTehran⟩, true⟩,
    ⟨⟨227820600000000000, by decide⟩, ⟨228423600000000000, by decide⟩⟩,
    ⟨228439800000000000, by decide⟩, parse_of_draft lexes rfl, ?_, ?_, ?_, ?_⟩ <;> decide +kernel

end TimeRange.Expression
