import TimeRange.Proofs.Resolution.AsOf
import TimeRange.Proofs.Zone.Rounding

/-!
# Grains count whole buckets

An anchor that is a grain moves the present by its count and rounds the result
down. On the clocks of a zone of one offset it makes no difference which of the
two is done first, although a move by months may change the day of the month.
So two grains of one unit are as many buckets apart as their counts.

The main statement is `range?_counts_whole_buckets`.
-/

namespace TimeRange

open Calendar

namespace Zone

variable {offset : Int} {convention : Convention} {unit : TimeUnit}

theorem index_of_shift?_fixed {count : Int} {instant moved : Instant}
    (found : (fixed offset).shift? unit count instant = some moved) :
    (convention.grid unit).index ((fixed offset).wallNanoseconds moved)
      = (convention.grid unit).index ((fixed offset).wallNanoseconds instant) + count := by
  rw [(shift?_fixed_eq_some_iff.mp found).2]
  exact Convention.index_grid_shift convention _ _

/-- A bucket's start is moved to the start of the bucket that lies as many buckets after it. -/
theorem wallNanoseconds_of_shift?_start {count bucket : Int} {instant moved : Instant}
    (starts : (fixed offset).wallNanoseconds instant = (convention.grid unit).start bucket)
    (found : (fixed offset).shift? unit count instant = some moved) :
    (fixed offset).wallNanoseconds moved = (convention.grid unit).start (bucket + count) := by
  rw [(shift?_fixed_eq_some_iff.mp found).2, starts]
  exact Convention.shift_grid_start convention _ _

/-- Rounding down after a move and moving what is rounded down lead to the same instant. -/
theorem truncate?_shift?_fixed {count : Int} {instant left right : Instant}
    (movedFirst : ((fixed offset).shift? unit count instant).bind
      ((fixed offset).truncate? convention (some unit)) = some left)
    (roundedFirst : ((fixed offset).truncate? convention (some unit) instant).bind
      ((fixed offset).shift? unit count) = some right) : left = right := by
  obtain ⟨moved, shifted, rounded⟩ := Option.bind_eq_some_iff.mp movedFirst
  obtain ⟨start, begun, landed⟩ := Option.bind_eq_some_iff.mp roundedFirst
  have onLeft : (fixed offset).wallNanoseconds left = (convention.grid unit).start
      ((convention.grid unit).index ((fixed offset).wallNanoseconds instant) + count) := by
    rw [(truncate?_fixed_eq_some_iff.mp rounded).2.2, Grid.floor, index_of_shift?_fixed shifted]
  have onRight := wallNanoseconds_of_shift?_start (truncate?_fixed_eq_some_iff.mp begun).2.2 landed
  exact (wallNanoseconds_fixed_inj offset).mp (onLeft.trans onRight.symm)

end Zone

namespace Expression

variable {expression : Expression} {context : Context}

theorem locate?_ofBase_grain (expression : Expression) (context : Context)
    (place? : WallTime → Option Instant) (grain : Grain) (origin : Instant) :
    expression.locate? context place? (.ofBase (.grain grain)) origin =
      (grain.shift? expression.zone.toZone origin).bind
        (expression.zone.toZone.truncate? context.convention (some grain.unit)) := by
  unfold locate?
  simp only [Anchor.ofBase, Base.instant?, Option.elim_none, Option.bind_eq_bind]
  congr 1

/-- A grain without a count counts nothing. -/
theorem grain_shift?_eq_ite (count? : Option Int) (unit : TimeUnit) (zone : Zone) (instant : Instant) :
    Grain.shift? ⟨count?, unit⟩ zone instant
      = if count?.getD 0 = 0 then some instant else zone.shift? unit (count?.getD 0) instant := by
  cases count? with
  | none => rfl
  | some count => rfl

/-- A grain leaves its origin as it is if it counts nothing, and otherwise moves it by its count. -/
theorem of_grain_shift? {zone : Zone} {count? : Option Int} {unit : TimeUnit}
    {instant moved : Instant} (found : Grain.shift? ⟨count?, unit⟩ zone instant = some moved) :
    (count?.getD 0 = 0 ∧ moved = instant) ∨ zone.shift? unit (count?.getD 0) instant = some moved := by
  rw [grain_shift?_eq_ite] at found
  split at found
  · rename_i still
    cases found
    exact .inl ⟨still, rfl⟩
  · exact .inr found

theorem index_of_grain_shift?_fixed {offset : Int} {convention : Convention} {count? : Option Int}
    {unit : TimeUnit} {instant moved : Instant}
    (found : Grain.shift? ⟨count?, unit⟩ (Zone.fixed offset) instant = some moved) :
    (convention.grid unit).index ((Zone.fixed offset).wallNanoseconds moved)
      = (convention.grid unit).index ((Zone.fixed offset).wallNanoseconds instant)
        + count?.getD 0 := by
  rcases of_grain_shift? found with ⟨still, rfl⟩ | shifted
  · rw [still, Int.add_zero]
  · exact Zone.index_of_shift?_fixed shifted

/-- Where a grain lies on the clocks of a zone of one offset: at the start of a bucket, counted from its origin. -/
theorem of_locate?_ofBase_grain {offset : Int} (clocks : expression.zone.toZone = Zone.fixed offset)
    {place? : WallTime → Option Instant} {count? : Option Int} {unit : TimeUnit}
    {origin located : Instant}
    (found : expression.locate? context place? (.ofBase (.grain ⟨count?, unit⟩)) origin
      = some located) :
    InCalendar ((Zone.fixed offset).wallNanoseconds located) ∧
      (Zone.fixed offset).wallNanoseconds located = (context.convention.grid unit).start
        ((context.convention.grid unit).index ((Zone.fixed offset).wallNanoseconds origin)
          + count?.getD 0) := by
  rw [locate?_ofBase_grain, clocks] at found
  obtain ⟨moved, shifted, rounded⟩ := Option.bind_eq_some_iff.mp found
  obtain ⟨_, stays, same⟩ := Zone.truncate?_fixed_eq_some_iff.mp rounded
  refine ⟨same ▸ stays, ?_⟩
  rw [same, Grid.floor, index_of_grain_shift?_fixed shifted]

/-- Without an as-of anchor, the bounds of a range are where its anchors lie in the context. -/
theorem located_of_range? (absent : expression.asOf? = none) {range : Range}
    (found : expression.range? context = some range) :
    expression.locate? context expression.zone.toZone.locate? expression.start
          (expression.origin context) = some range.start ∧
      expression.locate? context expression.zone.toZone.locate? expression.stop context.now
        = some range.stop := by
  rw [range?_of_asOf?_none absent] at found
  simp only [rangeAt?, Option.bind_eq_bind, Option.bind_eq_some_iff] at found
  obtain ⟨_, startFound, _, stopFound, same⟩ := found
  cases same
  exact ⟨startFound, stopFound⟩

/-- Without an as-of anchor, a range that does not end with the data counts from the present. -/
theorem range?_from_now (absent : expression.asOf? = none) (running : expression.stop.base ≠ .latest)
    {range : Range} (found : expression.range? context = some range) :
    expression.locate? context expression.zone.toZone.locate? expression.start context.now
        = some range.start ∧
      expression.locate? context expression.zone.toZone.locate? expression.stop context.now
        = some range.stop := by
  have located := located_of_range? absent found
  rwa [show expression.origin context = context.now from if_neg running] at located

/-- Two grains of one unit both count from the present. -/
theorem range?_of_two_grains (absent : expression.asOf? = none) {first? last? : Option Int}
    {unit : TimeUnit} (start : expression.start = .ofBase (.grain ⟨first?, unit⟩))
    (stop : expression.stop = .ofBase (.grain ⟨last?, unit⟩)) {range : Range}
    (found : expression.range? context = some range) :
    expression.locate? context expression.zone.toZone.locate? (.ofBase (.grain ⟨first?, unit⟩))
        context.now = some range.start ∧
      expression.locate? context expression.zone.toZone.locate? (.ofBase (.grain ⟨last?, unit⟩))
        context.now = some range.stop := by
  have running : expression.stop.base ≠ .latest := by
    rw [stop]
    exact Base.noConfusion
  rw [← start, ← stop]
  exact range?_from_now absent running found

section Fixed

variable {offset : Int} (clocks : expression.zone.toZone = Zone.fixed offset)
  (absent : expression.asOf? = none) {first? last? : Option Int} {unit : TimeUnit}
  (start : expression.start = .ofBase (.grain ⟨first?, unit⟩))
  (stop : expression.stop = .ofBase (.grain ⟨last?, unit⟩)) {range : Range}
  (found : expression.range? context = some range)

include clocks absent start stop found

/-- The stop of a range between two grains is the start, moved by the difference of their counts. -/
theorem shift?_start_eq_stop :
    (Zone.fixed offset).shift? unit (last?.getD 0 - first?.getD 0) range.start = some range.stop := by
  obtain ⟨startFound, stopFound⟩ := range?_of_two_grains absent start stop found
  obtain ⟨startInside, startAt⟩ := of_locate?_ofBase_grain clocks startFound
  obtain ⟨stopInside, stopAt⟩ := of_locate?_ofBase_grain clocks stopFound
  refine Zone.shift?_fixed_eq_some_iff.mpr ⟨fun _ => ⟨startInside, stopInside⟩, ?_⟩
  rw [startAt, stopAt, Convention.shift_grid_start]
  congr 1
  omega

/-- The range from the grain before to the grain of the present is the bucket before the present one. -/
theorem previous_bucket_of_range? (before : first? = some (-1)) (current : last?.getD 0 = 0) :
    (Zone.fixed offset).IsLastBoundary context.convention unit context.now range.stop ∧
      (Zone.fixed offset).IsBoundary context.convention unit range.start ∧
      range.start.nanoseconds < range.stop.nanoseconds ∧
      ∀ other, (Zone.fixed offset).IsBoundary context.convention unit other →
        ¬ (range.start.nanoseconds < other.nanoseconds
          ∧ other.nanoseconds < range.stop.nanoseconds) := by
  obtain ⟨startFound, stopFound⟩ := range?_of_two_grains absent start stop found
  obtain ⟨_, startAt⟩ := of_locate?_ofBase_grain clocks startFound
  obtain ⟨_, stopAt⟩ := of_locate?_ofBase_grain clocks stopFound
  rw [before, Option.getD_some] at startAt
  rw [current, Int.add_zero] at stopAt
  have next : (context.convention.grid unit).after 1 ((Zone.fixed offset).wallNanoseconds range.start)
      = (Zone.fixed offset).wallNanoseconds range.stop := by
    rw [stopAt, startAt, Grid.after, Grid.index_start]
    congr 1
    omega
  have starts : (context.convention.grid unit).Starts
      ((Zone.fixed offset).wallNanoseconds range.start) := startAt ▸ Grid.starts_start _ _
  refine ⟨Zone.isLastBoundary_fixed stopAt, ?_, ?_, ?_⟩
  · rwa [Zone.IsBoundary, Convention.atBoundary_iff_starts]
  · have ordered := (context.convention.grid unit).lt_after_one
      ((Zone.fixed offset).wallNanoseconds range.start)
    rwa [next, Zone.wallNanoseconds_fixed_lt_iff] at ordered
  · rintro other boundary ⟨after, earlier⟩
    rw [Zone.IsBoundary, Convention.atBoundary_iff_starts] at boundary
    have bound := Grid.after_one_le boundary ((Zone.wallNanoseconds_fixed_lt_iff offset).mpr after)
    rw [next, Zone.wallNanoseconds_fixed_le_iff] at bound
    exact Int.not_lt.mpr bound earlier

end Fixed

/--
On the clocks of a zone of one offset, rounding down and moving by whole units
can be exchanged. A range between two grains of one unit is as many units long
as their counts differ, and the range from the grain before to the grain of the
present is the bucket before the one that holds the present.
-/
theorem range?_counts_whole_buckets (offset : Int) (unit : TimeUnit) :
    (∀ (convention : Convention) (count : Int) (instant left right : Instant),
        ((Zone.fixed offset).shift? unit count instant).bind
            ((Zone.fixed offset).truncate? convention (some unit)) = some left →
          ((Zone.fixed offset).truncate? convention (some unit) instant).bind
            ((Zone.fixed offset).shift? unit count) = some right →
          left = right) ∧
      ∀ (expression : Expression) (context : Context) (range : Range) (first? last? : Option Int),
        expression.zone.toZone = Zone.fixed offset → expression.asOf? = none →
          expression.start = .ofBase (.grain ⟨first?, unit⟩) →
          expression.stop = .ofBase (.grain ⟨last?, unit⟩) →
          expression.range? context = some range →
          (Zone.fixed offset).shift? unit (last?.getD 0 - first?.getD 0) range.start
              = some range.stop ∧
            (first? = some (-1) → last?.getD 0 = 0 →
              (Zone.fixed offset).IsLastBoundary context.convention unit context.now range.stop ∧
                (Zone.fixed offset).IsBoundary context.convention unit range.start ∧
                range.start.nanoseconds < range.stop.nanoseconds ∧
                ∀ other, (Zone.fixed offset).IsBoundary context.convention unit other →
                  ¬ (range.start.nanoseconds < other.nanoseconds
                    ∧ other.nanoseconds < range.stop.nanoseconds)) := by
  refine ⟨fun _ _ _ _ _ => Zone.truncate?_shift?_fixed, ?_⟩
  intro expression context range first? last? clocks absent start stop found
  exact ⟨shift?_start_eq_stop clocks absent start stop found,
    previous_bucket_of_range? clocks absent start stop found⟩

/-- On the last of March, the month before is February, and it ends a month after it starts. -/
theorem range?_counts_whole_buckets_of_february :
    ∃ expression, parse "-1M,0M" = .ok expression ∧
      expression.range? (.atPresent ⟨1711886400000000000, by decide⟩) =
          some ⟨⟨1706745600000000000, by decide⟩, ⟨1709251200000000000, by decide⟩⟩ ∧
        (Zone.fixed 0).shift? .month 1 ⟨1706745600000000000, by decide⟩ =
          some ⟨1709251200000000000, by decide⟩ := by
  have lexes : Lexes "-1M,0M" [.number (-1), .unit .month, .comma, .number 0, .unit .month] := by
    unfold Lexes
    decide +kernel
  have read : parse "-1M,0M" = .ok ⟨.ofBase (.grain ⟨some (-1), .month⟩),
      .ofBase (.grain ⟨some 0, .month⟩), none, none, true⟩ := parse_of_draft lexes rfl
  have found : (Expression.mk (.ofBase (.grain ⟨some (-1), .month⟩))
      (.ofBase (.grain ⟨some 0, .month⟩)) none none true).range?
        (.atPresent ⟨1711886400000000000, by decide⟩) =
      some ⟨⟨1706745600000000000, by decide⟩, ⟨1709251200000000000, by decide⟩⟩ := by decide
  have counted := ((range?_counts_whole_buckets 0 .month).2 _ _ _ (some (-1)) (some 0)
    rfl rfl rfl rfl found).1
  have difference : (some 0).getD 0 - (some (-1)).getD 0 = (1 : Int) := by decide
  rw [difference] at counted
  exact ⟨_, read, found, counted⟩

end Expression

end TimeRange
