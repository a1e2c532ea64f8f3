import TimeRange.Proofs.Resolution.WholeBuckets
import TimeRange.Proofs.Zone.LocalOrder

/-!
# Bounds of ranges on local clocks

In every zone of the catalogue a complete end is not after the keyword that it
is rounded from, and a running end is not before it, unless the clock has been
set back over the end of the keyword's bucket. A range to date, and a range
between two grains of one unit, the first of which does not count further than
the second, starts no later than it stops.

The main statements are `range?_bounds_running_end` and
`range?_of_two_grains_ordered`.
-/

namespace TimeRange

open Calendar

/-- The instant of a base that is a running end, `now` or `latest`. -/
def Base.runningEnd? (context : Context) : Base → Option Instant
  | .now => some context.now
  | .latest => some context.latest
  | _ => none

namespace Expression

variable {expression : Expression} {context : Context} {range : Range}

theorem locate?_ofBase_runningEnd {base : Base} {keyword : Instant}
    (ends : base.runningEnd? context = some keyword) (expression : Expression)
    (place? : WallTime → Option Instant) (origin : Instant) :
    expression.locate? context place? (.ofBase base) origin =
      if expression.isComplete then
        expression.zone.toZone.truncate? context.convention expression.roundingUnit? keyword
      else expression.zone.toZone.ceiling? context.convention expression.roundingUnit? keyword := by
  cases base with
  | grain step => cases ends
  | date day => cases ends
  | dateTime day clock => cases ends
  | now =>
      cases ends
      rfl
  | latest =>
      cases ends
      rfl
  | earliest => cases ends

/-- Without an as-of anchor, a range that ends with `now` or `latest` stops where that is rounded to. -/
theorem stop_of_range?_of_runningEnd (absent : expression.asOf? = none) {base : Base}
    (stop : expression.stop = .ofBase base) {keyword : Instant}
    (ends : base.runningEnd? context = some keyword)
    (found : expression.range? context = some range) :
    (if expression.isComplete then
        expression.zone.toZone.truncate? context.convention expression.roundingUnit? keyword
      else expression.zone.toZone.ceiling? context.convention expression.roundingUnit? keyword)
        = some range.stop := by
  have located := (located_of_range? absent found).2
  rwa [stop, locate?_ofBase_runningEnd ends] at located

/-- A range to date starts with the bucket of the last instant of the data, and stops with that instant. -/
theorem truncate?_stop_of_range?_to_date (absent : expression.asOf? = none)
    (plain : expression.rounding? = none) {count? : Option Int} (still : count?.getD 0 = 0)
    {unit : TimeUnit} (start : expression.start = .ofBase (.grain ⟨count?, unit⟩))
    (stop : expression.stop = .ofBase .latest) (found : expression.range? context = some range) :
    expression.zone.toZone.truncate? context.convention (some unit) range.stop
      = some range.start := by
  have fromData : expression.origin context = context.latest := by
    unfold origin
    rw [stop]
    exact if_pos rfl
  have unrounded : expression.isComplete = false ∧ expression.roundingUnit? = none := by
    unfold isComplete roundingUnit?
    rw [plain]
    exact ⟨rfl, rfl⟩
  have stopFound := stop_of_range?_of_runningEnd absent stop rfl found
  rw [unrounded.1, unrounded.2] at stopFound
  have stopAt : context.latest = range.stop := Option.some.inj stopFound
  have startFound := (located_of_range? absent found).1
  rwa [start, fromData, locate?_ofBase_grain, grain_shift?_eq_ite, if_pos still, Option.bind_some,
    stopAt] at startFound

/-! ## Complete and running ends -/

section Keyword

variable {named : NamedZone} (member : named ∈ NamedZone.catalogue) (clocks : expression.zone = named)
  (absent : expression.asOf? = none) {base : Base} (stop : expression.stop = .ofBase base)
  {keyword : Instant} (ends : base.runningEnd? context = some keyword) {grain : Grain}
  (found : expression.range? context = some range)

include member clocks absent stop ends found

theorem stop_le_of_complete (complete : expression.rounding? = some (.complete grain)) :
    range.stop.nanoseconds ≤ keyword.nanoseconds := by
  have rounded := stop_of_range?_of_runningEnd absent stop ends found
  unfold isComplete roundingUnit? at rounded
  rw [complete, clocks] at rounded
  exact (Zone.steady_of_mem_catalogue named member).truncate?_le
    (Zone.skipsFromMidnight_of_mem_catalogue named member) rounded

theorem le_stop_of_running (running : expression.rounding? = some (.running grain)) :
    keyword.nanoseconds ≤ range.stop.nanoseconds
      ∨ named.toZone.EndRepeats context.convention grain.unit keyword := by
  have rounded := stop_of_range?_of_runningEnd absent stop ends found
  unfold isComplete roundingUnit? at rounded
  rw [running, clocks] at rounded
  exact (Zone.steady_of_mem_catalogue named member).le_ceiling? rounded

end Keyword

/--
In every zone of the catalogue, rounding down does not lead to a later instant,
and rounding up does not lead to an earlier one, unless the clock has been set
back over the midnight at which the bucket of the instant ends. So a complete
end is not after the keyword, and a running end is not before it with the same
exception. A range to date starts no later than it stops.
-/
theorem range?_bounds_running_end {named : NamedZone} (member : named ∈ NamedZone.catalogue)
    (unit : TimeUnit) :
    (∀ convention instant start,
        named.toZone.truncate? convention (some unit) instant = some start →
          start.nanoseconds ≤ instant.nanoseconds) ∧
      (∀ convention instant stop,
        named.toZone.ceiling? convention (some unit) instant = some stop →
          instant.nanoseconds ≤ stop.nanoseconds
            ∨ named.toZone.EndRepeats convention unit instant) ∧
      ∀ (expression : Expression) (context : Context) (range : Range) (base : Base)
          (keyword : Instant),
        expression.zone = named → expression.asOf? = none → expression.stop = .ofBase base →
          base.runningEnd? context = some keyword → expression.range? context = some range →
          (∀ grain, grain.unit = unit → expression.rounding? = some (.complete grain) →
              range.stop.nanoseconds ≤ keyword.nanoseconds) ∧
            (∀ grain, grain.unit = unit → expression.rounding? = some (.running grain) →
              keyword.nanoseconds ≤ range.stop.nanoseconds
                ∨ named.toZone.EndRepeats context.convention unit keyword) ∧
            (∀ count? : Option Int, count?.getD 0 = 0 →
              expression.start = .ofBase (.grain ⟨count?, unit⟩) → base = .latest →
              expression.rounding? = none →
                range.start.nanoseconds ≤ range.stop.nanoseconds) := by
  have steady := Zone.steady_of_mem_catalogue named member
  have prompt := Zone.skipsFromMidnight_of_mem_catalogue named member
  refine ⟨fun _ _ _ => steady.truncate?_le prompt, fun _ _ _ => steady.le_ceiling?, ?_⟩
  intro expression context range base keyword clocks absent stop ends found
  refine ⟨?_, ?_, ?_⟩
  · rintro grain rfl complete
    exact stop_le_of_complete member clocks absent stop ends found complete
  · rintro grain rfl running
    exact le_stop_of_running member clocks absent stop ends found running
  · rintro count? still start rfl plain
    have rounded := truncate?_stop_of_range?_to_date absent plain still start stop found
    rw [clocks] at rounded
    exact steady.truncate?_le prompt rounded

/--
In Havana, where the first hour of the tenth of March 2024 is skipped, that day
ends at one in the morning, which is not before any time of the day.
-/
theorem range?_bounds_running_end_of_skipped_hour :
    ∃ expression range, parse "-1d,now:d@\x7bAmerica/Havana\x7d" = .ok expression ∧
      expression.range? (.atPresent ⟨1710086400000000000, by decide⟩) = some range ∧
        1710086400000000000 ≤ range.stop.nanoseconds := by
  have lexes : Lexes "-1d,now:d@\x7bAmerica/Havana\x7d"
      [.number (-1), .unit .day, .comma, .now, .colon, .unit .day, .atSign, .zone "America/Havana"] := by
    unfold Lexes
    decide +kernel
  have read : parse "-1d,now:d@\x7bAmerica/Havana\x7d" = .ok ⟨.ofBase (.grain ⟨some (-1), .day⟩), .now,
      some (.running ⟨none, .day⟩), some ⟨none, some NamedZone.americaHavana⟩, true⟩ :=
    parse_of_draft lexes rfl
  have found : (Expression.mk (.ofBase (.grain ⟨some (-1), .day⟩)) .now (some (.running ⟨none, .day⟩))
      (some ⟨none, some NamedZone.americaHavana⟩) true).range?
        (.atPresent ⟨1710086400000000000, by decide⟩) =
      some ⟨⟨1709960400000000000, by decide⟩, ⟨1710133200000000000, by decide⟩⟩ := by
    decide +kernel
  have onWall : NamedZone.americaHavana.toZone.wallTime? ⟨1710086400000000000, by decide⟩
      = some ⟨1710072000000000000, by decide⟩ := by
    decide +kernel
  have unrepeated : ∀ change ∈ NamedZone.americaHavana.toZone.changes,
      ¬ change.Repeats (1710072000000000000 / secondLength) := by
    decide +kernel
  refine ⟨_, _, read, found, ?_⟩
  rcases ((range?_bounds_running_end (by decide +kernel) .day).2.2 _ _ _ .now _ rfl rfl rfl rfl
    found).2.1 ⟨none, .day⟩ rfl rfl with ordered | ⟨_, wall, shown, change, member, _, repeats, _⟩
  · exact ordered
  · cases onWall.symm.trans shown
    exact absurd repeats (unrepeated change member)

/--
In St John's, where the clock was set back at a minute past the midnight that
began the 25th of October 1987, the 24th is rounded up to that midnight as it
was shown first, and so to a time before its own last minutes.
-/
theorem range?_stops_before_present :
    ∃ expression range, parse "-1d,now:d@\x7bAmerica/St_Johns\x7d" = .ok expression ∧
      expression.range? (.atPresent ⟨562130460000000000, by decide⟩) = some range ∧
        range.stop.nanoseconds < 562130460000000000 ∧
        NamedZone.americaStJohns.toZone.EndRepeats .standard .day
          ⟨562130460000000000, by decide⟩ := by
  have lexes : Lexes "-1d,now:d@\x7bAmerica/St_Johns\x7d"
      [.number (-1), .unit .day, .comma, .now, .colon, .unit .day, .atSign,
        .zone "America/St_Johns"] := by
    unfold Lexes
    decide +kernel
  refine ⟨⟨.ofBase (.grain ⟨some (-1), .day⟩), .now, some (.running ⟨none, .day⟩),
      some ⟨none, some NamedZone.americaStJohns⟩, true⟩,
    ⟨⟨561954600000000000, by decide⟩, ⟨562127400000000000, by decide⟩⟩,
    parse_of_draft lexes rfl, ?_, ?_, trivial, ⟨562117860000000000, by decide⟩, ?_,
    ⟨562127460, -9000, -12600⟩, ?_, ?_, ?_, ?_⟩ <;> decide +kernel

/-! ## Two grains of one unit -/

section Grains

variable {zone : Zone} {convention : Convention} {unit : TimeUnit} {instant : Instant}

/-- Where a grain of days or months is rounded down to: the bucket that it counts to, or the one after it. -/
theorem of_grain_truncate?_of_isCalendar (steady : zone.Steady) (calendar : unit.measure.IsCalendar)
    {count? : Option Int} {start : Instant}
    (found : (Grain.shift? ⟨count?, unit⟩ zone instant).bind (zone.truncate? convention (some unit))
      = some start) :
    ∃ today, zone.wallTime? instant = some today ∧
      ∃ count, (count = count?.getD 0 ∨ count = count?.getD 0 + 1) ∧
        zone.startOfDay? ((convention.dateGrid unit).after count today.day) = some start := by
  obtain ⟨moved, shifted, rounded⟩ := Option.bind_eq_some_iff.mp found
  change zone.bucketStart? convention unit moved = some start at rounded
  rcases of_grain_shift? shifted with ⟨still, rfl⟩ | shifted
  · obtain ⟨today, read, _⟩ :=
      Option.bind_eq_some_iff.mp (Zone.bucketStart?_of_isCalendar calendar ▸ rounded)
    rw [Zone.bucketStart?_eq_startOfDay? calendar read, ← Grid.after_zero] at rounded
    exact ⟨today, read, 0, .inl still.symm, rounded⟩
  · obtain ⟨today, read, _⟩ :=
      Option.bind_eq_some_iff.mp (Zone.shift?_of_isCalendar calendar _ ▸ shifted)
    refine ⟨today, read, ?_⟩
    rcases steady.bucketStart?_of_shift? calendar read shifted rounded with counted | ⟨_, _, _, _, next⟩
    · exact ⟨_, .inl rfl, counted⟩
    · exact ⟨_, .inr rfl, next⟩

/-- Where a grain within the hour is rounded down to: less than a unit before where it counts to. -/
theorem of_grain_truncate?_of_exact {length : Int} (exact : unit.measure = .exact length)
    {count? : Option Int} {start : Instant}
    (found : (Grain.shift? ⟨count?, unit⟩ zone instant).bind (zone.truncate? convention (some unit))
      = some start) :
    start.nanoseconds ≤ instant.nanoseconds + count?.getD 0 * length ∧
      instant.nanoseconds + count?.getD 0 * length < start.nanoseconds + length := by
  obtain ⟨moved, shifted, rounded⟩ := Option.bind_eq_some_iff.mp found
  have counted : moved.nanoseconds = instant.nanoseconds + count?.getD 0 * length := by
    rcases of_grain_shift? shifted with ⟨still, rfl⟩ | shifted
    · rw [still, Int.zero_mul, Int.add_zero]
    · exact (Zone.shift?_of_exact_eq_some_iff exact).mp shifted
  rw [← counted]
  exact Zone.bucketStart?_bounds_of_exact exact rounded

/-- A grain that counts further is not rounded down to an earlier instant. -/
theorem grain_truncate?_mono (steady : zone.Steady) (prompt : zone.SkipsFromMidnight)
    {first? last? : Option Int} (ordered : first?.getD 0 ≤ last?.getD 0) {start stop : Instant}
    (firstFound : (Grain.shift? ⟨first?, unit⟩ zone instant).bind
      (zone.truncate? convention (some unit)) = some start)
    (lastFound : (Grain.shift? ⟨last?, unit⟩ zone instant).bind
      (zone.truncate? convention (some unit)) = some stop) :
    start.nanoseconds ≤ stop.nanoseconds := by
  rcases Int.lt_or_eq_of_le ordered with further | same
  · by_cases calendar : unit.measure.IsCalendar
    · obtain ⟨today, read, first, firstCount, startAt⟩ :=
        of_grain_truncate?_of_isCalendar steady calendar firstFound
      obtain ⟨_, again, last, lastCount, stopAt⟩ :=
        of_grain_truncate?_of_isCalendar steady calendar lastFound
      cases read.symm.trans again
      -- a grain that is carried into the next bucket gets no further than the other one
      have buckets : first ≤ last := by omega
      exact steady.startOfDay?_mono prompt ((convention.dateGrid unit).after_mono buckets today.day)
        startAt stopAt
    · obtain ⟨length, exact⟩ := Measure.exists_eq_exact calendar
      have startAt := (of_grain_truncate?_of_exact exact firstFound).1
      have stopAt := (of_grain_truncate?_of_exact exact lastFound).2
      have positive : 0 ≤ length := Int.le_of_lt (TimeUnit.length_bounds exact).1
      have apart := Int.mul_le_mul_of_nonneg_right (Int.add_one_le_of_lt further) positive
      rw [Int.add_mul, Int.one_mul] at apart
      omega
  · rw [grain_shift?_eq_ite, same, ← grain_shift?_eq_ite, lastFound] at firstFound
    cases firstFound
    exact Int.le_refl _

end Grains

/--
In every zone of the catalogue, a range between two grains of one unit starts no
later than it stops, if the first does not count further than the second.
-/
theorem range?_of_two_grains_ordered {named : NamedZone} (member : named ∈ NamedZone.catalogue)
    {unit : TimeUnit} {first? last? : Option Int} (ordered : first?.getD 0 ≤ last?.getD 0)
    {expression : Expression} (clocks : expression.zone = named) (absent : expression.asOf? = none)
    (start : expression.start = .ofBase (.grain ⟨first?, unit⟩))
    (stop : expression.stop = .ofBase (.grain ⟨last?, unit⟩)) {context : Context} {range : Range}
    (found : expression.range? context = some range) :
    range.start.nanoseconds ≤ range.stop.nanoseconds := by
  obtain ⟨startFound, stopFound⟩ := range?_of_two_grains absent start stop found
  rw [locate?_ofBase_grain, clocks] at startFound stopFound
  exact grain_truncate?_mono (Zone.steady_of_mem_catalogue named member)
    (Zone.skipsFromMidnight_of_mem_catalogue named member) ordered startFound stopFound

/--
In Tehran, on the evening of the 28th of March 1977, the time of day is skipped
a week before, and both bounds are the midnight of the 22nd.
-/
theorem range?_of_two_grains_ordered_of_skipped_evening :
    ∃ expression range, parse "-7d,-6d@\x7bAsia/Tehran\x7d" = .ok expression ∧
      expression.range? (.atPresent ⟨228423600000000000, by decide⟩) = some range ∧
        range.start.nanoseconds ≤ range.stop.nanoseconds := by
  have lexes : Lexes "-7d,-6d@\x7bAsia/Tehran\x7d"
      [.number (-7), .unit .day, .comma, .number (-6), .unit .day, .atSign, .zone "Asia/Tehran"] := by
    unfold Lexes
    decide +kernel
  have read : parse "-7d,-6d@\x7bAsia/Tehran\x7d" = .ok ⟨.ofBase (.grain ⟨some (-7), .day⟩),
      .ofBase (.grain ⟨some (-6), .day⟩), none, some ⟨none, some NamedZone.asiaTehran⟩, true⟩ :=
    parse_of_draft lexes rfl
  have found : (Expression.mk (.ofBase (.grain ⟨some (-7), .day⟩))
      (.ofBase (.grain ⟨some (-6), .day⟩)) none (some ⟨none, some NamedZone.asiaTehran⟩) true).range?
        (.atPresent ⟨228423600000000000, by decide⟩) =
      some ⟨⟨227820600000000000, by decide⟩, ⟨227820600000000000, by decide⟩⟩ := by
    decide +kernel
  have ordered : (some (-7) : Option Int).getD 0 ≤ (some (-6) : Option Int).getD 0 := by decide
  exact ⟨_, _, read, found,
    range?_of_two_grains_ordered (by decide +kernel) ordered rfl rfl rfl rfl found⟩

end Expression

end TimeRange
