import TimeRange.Proofs.Resolution.WholeBuckets

/-!
# Ranges as time advances

How the ranges of one expression in two contexts compare, on the clocks of a
zone of one offset. A move by months does not keep the order of instants, since
it may cut several days down to the last one of a month. But it keeps the order
of months, so a grain that is rounded to its own unit directly after the move
keeps the order as well. If months are counted only there, then the range does
not move backwards as the present and the bounds of the data advance.

A grain alone as the as-of anchor tells no more of an instant than its bucket,
so the range stands still as long as the buckets of the three instants do.

The main statements are `range?_advances` and `range?_eq_of_same_buckets`.
-/

namespace TimeRange

open Calendar

/-! ## Instants in order -/

def Calendar.Instant.InOrder (first? last? : Option Instant) : Prop :=
  ∀ first last, first? = some first → last? = some last → first.nanoseconds ≤ last.nanoseconds

namespace Calendar.Instant.InOrder

theorem of_le {first last : Instant} (ordered : first.nanoseconds ≤ last.nanoseconds) :
    InOrder (some first) (some last) := by
  intro _ _ firstFound lastFound
  cases firstFound
  cases lastFound
  exact ordered

theorem refl (instant? : Option Instant) : InOrder instant? instant? := by
  intro _ _ firstFound lastFound
  cases firstFound.symm.trans lastFound
  exact Int.le_refl _

/-- What is found from instants in order is in order, if each step keeps it. -/
theorem bind {first? last? : Option Instant} {firstSend? lastSend? : Instant → Option Instant}
    (ordered : InOrder first? last?)
    (keeps : ∀ {first last : Instant}, first.nanoseconds ≤ last.nanoseconds →
      InOrder (firstSend? first) (lastSend? last)) :
    InOrder (first?.bind firstSend?) (last?.bind lastSend?) := by
  intro _ _ firstFound lastFound
  obtain ⟨first, firstHere, firstSent⟩ := Option.bind_eq_some_iff.mp firstFound
  obtain ⟨last, lastHere, lastSent⟩ := Option.bind_eq_some_iff.mp lastFound
  exact keeps (ordered first last firstHere lastHere) _ _ firstSent lastSent

end Calendar.Instant.InOrder

open Calendar.Instant (InOrder)

/-- Whether a context is not after another: none of its instants is, and the convention is the same. -/
structure Context.Precedes (first last : Context) : Prop where
  convention : first.convention = last.convention
  now : first.now.nanoseconds ≤ last.now.nanoseconds
  earliest : first.earliest.nanoseconds ≤ last.earliest.nanoseconds
  latest : first.latest.nanoseconds ≤ last.latest.nanoseconds

theorem Context.Precedes.mapInstants? {first last firstSent lastSent : Context}
    (ordered : first.Precedes last) {firstSend? lastSend? : Instant → Option Instant}
    (keeps : ∀ {first last : Instant}, first.nanoseconds ≤ last.nanoseconds →
      InOrder (firstSend? first) (lastSend? last))
    (firstFound : first.mapInstants? firstSend? = some firstSent)
    (lastFound : last.mapInstants? lastSend? = some lastSent) : firstSent.Precedes lastSent := by
  simp only [Context.mapInstants?, Option.bind_eq_bind, Option.bind_eq_some_iff]
    at firstFound lastFound
  obtain ⟨_, firstNow, _, firstEarliest, _, firstLatest, firstSame⟩ := firstFound
  obtain ⟨_, lastNow, _, lastEarliest, _, lastLatest, lastSame⟩ := lastFound
  cases firstSame
  cases lastSame
  exact ⟨ordered.convention, keeps ordered.now _ _ firstNow lastNow,
    keeps ordered.earliest _ _ firstEarliest lastEarliest,
    keeps ordered.latest _ _ firstLatest lastLatest⟩

/-! ## Moving and rounding -/

theorem Measure.shift_le_shift {measure : Measure} (regular : ¬ measure.IsMonths) (count : Int)
    {first last : Int} (ordered : first ≤ last) :
    measure.shift count first ≤ measure.shift count last := by
  cases measure with
  | exact length => exact Int.add_le_add_right ordered _
  | days size =>
      rw [Measure.shift_days, Measure.shift_days]
      exact Int.add_le_add_right ordered _
  | months size => exact absurd trivial regular

namespace Zone

variable {offset : Int} {convention : Convention} {unit : TimeUnit} {first last : Instant}
  (ordered : first.nanoseconds ≤ last.nanoseconds)

include ordered

theorem shift?_fixed_inOrder (regular : ¬ unit.measure.IsMonths) (count : Int) :
    InOrder ((fixed offset).shift? unit count first) ((fixed offset).shift? unit count last) := by
  intro firstMoved lastMoved firstFound lastFound
  rw [← wallNanoseconds_fixed_le_iff offset, (shift?_fixed_eq_some_iff.mp firstFound).2,
    (shift?_fixed_eq_some_iff.mp lastFound).2]
  exact Measure.shift_le_shift regular count ((wallNanoseconds_fixed_le_iff offset).mpr ordered)

theorem truncate?_fixed_inOrder (convention : Convention) (unit? : Option TimeUnit) :
    InOrder ((fixed offset).truncate? convention unit? first)
      ((fixed offset).truncate? convention unit? last) := by
  cases unit? with
  | none => exact .of_le ordered
  | some unit => exact fun _ _ => truncate?_fixed_mono ordered

theorem ceiling?_fixed_inOrder (convention : Convention) (unit? : Option TimeUnit) :
    InOrder ((fixed offset).ceiling? convention unit? first)
      ((fixed offset).ceiling? convention unit? last) := by
  cases unit? with
  | none => exact .of_le ordered
  | some unit => exact fun _ _ => ceiling?_fixed_mono ordered

end Zone

def Grain.CountsMonths (grain : Grain) : Prop :=
  grain.unit.measure.IsMonths ∧ grain.count?.getD 0 ≠ 0

theorem Grain.shift?_fixed_inOrder {grain : Grain} (regular : ¬ grain.CountsMonths) {offset : Int}
    {first last : Instant} (ordered : first.nanoseconds ≤ last.nanoseconds) :
    InOrder (grain.shift? (Zone.fixed offset) first) (grain.shift? (Zone.fixed offset) last) := by
  rcases grain with ⟨count?, unit⟩
  rw [Expression.grain_shift?_eq_ite, Expression.grain_shift?_eq_ite]
  by_cases still : count?.getD 0 = 0
  · rw [if_pos still, if_pos still]
    exact .of_le ordered
  · rw [if_neg still, if_neg still]
    exact Zone.shift?_fixed_inOrder ordered (fun months => regular ⟨months, still⟩) _

/-- A base lies no earlier in a later context, unless it counts months. -/
theorem Base.instant?_fixed_inOrder {base : Base} {offset : Int} {first last : Context}
    (ordered : first.Precedes last) {firstPlace? lastPlace? : WallTime → Option Instant}
    (places : ∀ wall, InOrder (firstPlace? wall) (lastPlace? wall)) {firstOrigin lastOrigin : Instant}
    (origins : firstOrigin.nanoseconds ≤ lastOrigin.nanoseconds)
    (regular : ∀ grain, base = .grain grain → ¬ grain.CountsMonths) :
    InOrder (base.instant? (Zone.fixed offset) first firstPlace? firstOrigin)
      (base.instant? (Zone.fixed offset) last lastPlace? lastOrigin) := by
  cases base with
  | grain step => exact Grain.shift?_fixed_inOrder (regular step rfl) origins
  | date day =>
      simp only [Base.instant?]
      cases WallTime.midnight? day.number with
      | none => rintro _ _ ⟨⟩
      | some wall => exact places wall
  | dateTime day clock =>
      simp only [Base.instant?]
      cases WallTime.ofDateTime? day clock with
      | none => rintro _ _ ⟨⟩
      | some wall => exact places wall
  | now => exact .of_le ordered.now
  | latest => exact .of_le ordered.latest
  | earliest => exact .of_le ordered.earliest

/-- Whether months are counted only by a grain that is neither moved nor rounded further. -/
def Anchor.CountsMonthsAlone (anchor : Anchor) : Prop :=
  (∀ grain, anchor.move? = some grain → ¬ grain.CountsMonths) ∧
    ∀ grain, anchor.base = .grain grain → grain.CountsMonths →
      anchor.move? = none ∧ anchor.truncation? = none

namespace Expression

variable {expression : Expression}

theorem origin_le_origin {first last : Context} (ordered : first.Precedes last) :
    (expression.origin first).nanoseconds ≤ (expression.origin last).nanoseconds := by
  unfold origin
  split
  · exact ordered.latest
  · exact ordered.now

section Fixed

variable {offset : Int} (clocks : expression.zone.toZone = Zone.fixed offset)

include clocks

theorem round?_inOrder (convention : Convention) (anchor : Anchor) {first last : Instant}
    (ordered : first.nanoseconds ≤ last.nanoseconds) :
    InOrder (expression.round? convention anchor first) (expression.round? convention anchor last) := by
  unfold round?
  rw [clocks]
  cases anchor.truncation? with
  | some unit => exact Zone.truncate?_fixed_inOrder ordered convention (some unit)
  | none =>
      dsimp only
      split
      · exact Zone.truncate?_fixed_inOrder ordered convention _
      · exact Zone.ceiling?_fixed_inOrder ordered convention _

section Contexts

variable {first last : Context} (ordered : first.Precedes last)
  {firstPlace? lastPlace? : WallTime → Option Instant}
  (places : ∀ wall, InOrder (firstPlace? wall) (lastPlace? wall)) {firstOrigin lastOrigin : Instant}
  (origins : firstOrigin.nanoseconds ≤ lastOrigin.nanoseconds)

include ordered origins

/-- A grain alone keeps the order of its origins, also if it counts months. -/
theorem locate?_ofBase_grain_inOrder (grain : Grain) :
    InOrder (expression.locate? first firstPlace? (.ofBase (.grain grain)) firstOrigin)
      (expression.locate? last lastPlace? (.ofBase (.grain grain)) lastOrigin) := by
  rcases grain with ⟨count?, unit⟩
  intro firstLocated lastLocated firstFound lastFound
  have firstAt := (of_locate?_ofBase_grain clocks firstFound).2
  have lastAt := (of_locate?_ofBase_grain clocks lastFound).2
  rw [← ordered.convention] at lastAt
  rw [← Zone.wallNanoseconds_fixed_le_iff offset, firstAt, lastAt, Grid.start_le_start_iff]
  exact Int.add_le_add_right
    (Grid.index_mono _ ((Zone.wallNanoseconds_fixed_le_iff offset).mpr origins)) _

include places

/-- An anchor lies no earlier in a later context. -/
theorem locate?_inOrder {anchor : Anchor} (alone : anchor.CountsMonthsAlone) :
    InOrder (expression.locate? first firstPlace? anchor firstOrigin)
      (expression.locate? last lastPlace? anchor lastOrigin) := by
  by_cases counts : ∃ grain, anchor.base = .grain grain ∧ grain.CountsMonths
  · obtain ⟨grain, isGrain, months⟩ := counts
    obtain ⟨unmoved, untruncated⟩ := alone.2 grain isGrain months
    have bare : anchor = .ofBase (.grain grain) := by
      rw [← isGrain]
      cases anchor
      cases unmoved
      cases untruncated
      rfl
    rw [bare]
    exact locate?_ofBase_grain_inOrder clocks ordered origins grain
  · unfold locate?
    rw [clocks, ordered.convention]
    have regular : ∀ grain, anchor.base = .grain grain → ¬ grain.CountsMonths :=
      fun grain isGrain months => counts ⟨grain, isGrain, months⟩
    refine (Base.instant?_fixed_inOrder ordered places origins regular).bind fun based => ?_
    refine InOrder.bind ?_ fun moved => round?_inOrder clocks _ anchor moved
    cases moves : anchor.move? with
    | none => exact .of_le based
    | some grain => exact Grain.shift?_fixed_inOrder (alone.1 grain moves) based

end Contexts

/-! ## Ranges -/

section Ranges

variable {first last : Context} (ordered : first.Precedes last)

include ordered

theorem shift?_inOrder {asOf : Anchor} (alone : asOf.CountsMonthsAlone)
    {firstInstant lastInstant : Instant}
    (instants : firstInstant.nanoseconds ≤ lastInstant.nanoseconds) :
    InOrder (expression.shift? first asOf firstInstant) (expression.shift? last asOf lastInstant) :=
  locate?_inOrder clocks ordered (fun _ => .refl _) instants alone

variable (asOfAlone : ∀ asOf, expression.asOf? = some asOf → asOf.CountsMonthsAlone)

include asOfAlone

theorem shiftedContext?_precedes {firstShifted lastShifted : Context}
    (firstFound : expression.shiftedContext? first = some firstShifted)
    (lastFound : expression.shiftedContext? last = some lastShifted) :
    firstShifted.Precedes lastShifted := by
  unfold shiftedContext? at firstFound lastFound
  cases seen : expression.asOf? with
  | none =>
      rw [seen] at firstFound lastFound
      cases firstFound
      cases lastFound
      exact ordered
  | some asOf =>
      rw [seen] at firstFound lastFound
      exact ordered.mapInstants? (shift?_inOrder clocks ordered (asOfAlone asOf seen)) firstFound lastFound

theorem place?_inOrder (wall : WallTime) :
    InOrder (expression.place? first wall) (expression.place? last wall) := by
  unfold place?
  refine InOrder.bind (.refl _) fun located => ?_
  cases seen : expression.asOf? with
  | none => exact .of_le located
  | some asOf => exact shift?_inOrder clocks ordered (asOfAlone asOf seen) located

end Ranges

end Fixed

/--
On the clocks of a zone of one offset, neither bound of a range moves backwards
as the instants of the context advance, if in the start, the stop and the as-of
anchor months, quarters and years are counted only by grains that are neither
moved nor rounded further.
-/
theorem range?_advances {expression : Expression} {offset : Int}
    (clocks : expression.zone.toZone = Zone.fixed offset)
    (startAlone : expression.start.CountsMonthsAlone) (stopAlone : expression.stop.CountsMonthsAlone)
    (asOfAlone : ∀ asOf, expression.asOf? = some asOf → asOf.CountsMonthsAlone)
    {first last : Context} (ordered : first.Precedes last) {firstRange lastRange : Range}
    (firstFound : expression.range? first = some firstRange)
    (lastFound : expression.range? last = some lastRange) :
    firstRange.start.nanoseconds ≤ lastRange.start.nanoseconds ∧
      firstRange.stop.nanoseconds ≤ lastRange.stop.nanoseconds := by
  simp only [range?, Option.bind_eq_bind, Option.bind_eq_some_iff] at firstFound lastFound
  obtain ⟨firstShifted, firstSeen, _, firstStart, _, firstStop, firstSame⟩ := firstFound
  obtain ⟨lastShifted, lastSeen, _, lastStart, _, lastStop, lastSame⟩ := lastFound
  cases firstSame
  cases lastSame
  have shifted := shiftedContext?_precedes clocks ordered asOfAlone firstSeen lastSeen
  have places := place?_inOrder clocks shifted asOfAlone
  exact ⟨locate?_inOrder clocks shifted places (origin_le_origin shifted) startAlone _ _
      firstStart lastStart,
    locate?_inOrder clocks shifted places shifted.now stopAlone _ _ firstStop lastStop⟩

/--
As of a day ago, February is the month before the last hour of the 30th of March
and the month before the second hour of the 31st. A month before, both fall on
the 29th, and so the later one on the earlier time of that day.
-/
theorem range?_advances_past_month_end :
    ∃ expression firstRange lastRange, parse "-1M,now@now-1d" = .ok expression ∧
      expression.range? (.atPresent ⟨1711926000000000000, by decide⟩) = some firstRange ∧
        expression.range? (.atPresent ⟨1711933200000000000, by decide⟩) = some lastRange ∧
          firstRange.start.nanoseconds ≤ lastRange.start.nanoseconds ∧
            firstRange.stop.nanoseconds ≤ lastRange.stop.nanoseconds := by
  have lexes : Lexes "-1M,now@now-1d"
      [.number (-1), .unit .month, .comma, .now, .atSign, .now, .number (-1), .unit .day] := by
    unfold Lexes
    decide +kernel
  have read : parse "-1M,now@now-1d" = .ok ⟨.ofBase (.grain ⟨some (-1), .month⟩), .now, none,
      some ⟨some ⟨.now, some ⟨some (-1), .day⟩, none⟩, none⟩, true⟩ := parse_of_draft lexes rfl
  have firstFound : (Expression.mk (.ofBase (.grain ⟨some (-1), .month⟩)) .now none
      (some ⟨some ⟨.now, some ⟨some (-1), .day⟩, none⟩, none⟩) true).range?
        (.atPresent ⟨1711926000000000000, by decide⟩) =
      some ⟨⟨1706745600000000000, by decide⟩, ⟨1711839600000000000, by decide⟩⟩ := by decide
  have lastFound : (Expression.mk (.ofBase (.grain ⟨some (-1), .month⟩)) .now none
      (some ⟨some ⟨.now, some ⟨some (-1), .day⟩, none⟩, none⟩) true).range?
        (.atPresent ⟨1711933200000000000, by decide⟩) =
      some ⟨⟨1706745600000000000, by decide⟩, ⟨1711846800000000000, by decide⟩⟩ := by decide
  have grainAlone (grain : Grain) : (Anchor.ofBase (.grain grain)).CountsMonthsAlone := by
    refine ⟨?_, fun _ _ _ => ⟨rfl, rfl⟩⟩
    rintro _ ⟨⟩
  have nowAlone : Anchor.now.CountsMonthsAlone := by
    refine ⟨?_, ?_⟩
    · rintro _ ⟨⟩
    · rintro _ ⟨⟩
  have asOfAlone : (Anchor.mk .now (some ⟨some (-1), .day⟩) none).CountsMonthsAlone := by
    refine ⟨?_, ?_⟩
    · rintro _ ⟨⟩ ⟨months, _⟩
      exact months
    · rintro _ ⟨⟩
  have ordered : (Context.atPresent ⟨1711926000000000000, by decide⟩).Precedes
      (.atPresent ⟨1711933200000000000, by decide⟩) :=
    ⟨rfl, by decide, by decide, by decide⟩
  exact ⟨_, _, _, read, firstFound, lastFound,
    range?_advances rfl (grainAlone _) nowAlone (by rintro _ ⟨⟩; exact asOfAlone) ordered firstFound
      lastFound⟩

end Expression

/-! ## As of a bucket -/

section Buckets

variable {convention : Convention} {unit : TimeUnit} {first last : Instant}
  (same : (Zone.fixed 0).truncate? convention (some unit) first
    = (Zone.fixed 0).truncate? convention (some unit) last)

include same

theorem Zone.floor_le_of_truncate?_utc_eq :
    (convention.grid unit).floor ((fixed 0).wallNanoseconds first)
      ≤ (fixed 0).wallNanoseconds last := by
  cases rounded : (fixed 0).truncate? convention (some unit) last with
  | some start =>
      rw [rounded] at same
      rw [← (truncate?_fixed_eq_some_iff.mp same).2.2, (truncate?_fixed_eq_some_iff.mp rounded).2.2]
      exact Grid.floor_le _ _
  | none =>
      rw [rounded] at same
      have inside (instant : Instant) : InCalendar ((fixed 0).wallNanoseconds instant) := by
        rw [wallNanoseconds_fixed, Int.zero_mul, Int.add_zero]
        exact instant.inCalendar
      -- only a bucket that begins before the calendar is not rounded down
      have outside : ¬ InCalendar ((convention.grid unit).floor ((fixed 0).wallNanoseconds first)) := by
        intro stays
        have found : (fixed 0).truncate? convention (some unit) first = some ⟨_, stays⟩ := by
          refine truncate?_fixed_eq_some_iff.mpr ⟨inside first, stays, ?_⟩
          rw [wallNanoseconds_fixed, Int.zero_mul, Int.add_zero]
        rw [same] at found
        cases found
      have below := (convention.grid unit).floor_le ((fixed 0).wallNanoseconds first)
      have firstInside := inside first
      have lastInside := inside last
      unfold InCalendar at outside firstInside lastInside
      omega

/-- In Universal Time, instants that are rounded down alike, if at all, lie in one bucket. -/
theorem Zone.index_eq_of_truncate?_utc_eq :
    (convention.grid unit).index ((fixed 0).wallNanoseconds first)
      = (convention.grid unit).index ((fixed 0).wallNanoseconds last) :=
  Int.le_antisymm (Grid.start_le_iff _ |>.mp (floor_le_of_truncate?_utc_eq same))
    (Grid.start_le_iff _ |>.mp (floor_le_of_truncate?_utc_eq same.symm))

end Buckets

/-- Whether the instants of two contexts lie in the same buckets of a unit in Universal Time. -/
structure Context.SharesBuckets (unit : TimeUnit) (first last : Context) : Prop where
  convention : first.convention = last.convention
  now : (Zone.fixed 0).truncate? first.convention (some unit) first.now
    = (Zone.fixed 0).truncate? first.convention (some unit) last.now
  earliest : (Zone.fixed 0).truncate? first.convention (some unit) first.earliest
    = (Zone.fixed 0).truncate? first.convention (some unit) last.earliest
  latest : (Zone.fixed 0).truncate? first.convention (some unit) first.latest
    = (Zone.fixed 0).truncate? first.convention (some unit) last.latest

namespace Expression

section Pinned

variable {expression : Expression} (clocks : expression.zone.toZone = Zone.fixed 0) {grain : Grain}
  {first last : Context}

include clocks

/-- A grain alone shifts two instants of a bucket to the same instant. -/
theorem shift?_eq_of_same_bucket (convention : first.convention = last.convention)
    {firstInstant lastInstant firstShifted lastShifted : Instant}
    (same : (Zone.fixed 0).truncate? first.convention (some grain.unit) firstInstant
      = (Zone.fixed 0).truncate? first.convention (some grain.unit) lastInstant)
    (firstFound : expression.shift? first (.ofBase (.grain grain)) firstInstant = some firstShifted)
    (lastFound : expression.shift? last (.ofBase (.grain grain)) lastInstant = some lastShifted) :
    firstShifted = lastShifted := by
  have firstAt := (of_locate?_ofBase_grain clocks firstFound).2
  have lastAt := (of_locate?_ofBase_grain clocks lastFound).2
  rw [← convention, ← Zone.index_eq_of_truncate?_utc_eq same, ← firstAt] at lastAt
  exact ((Zone.wallNanoseconds_fixed_inj 0).mp lastAt).symm

theorem shiftedContext?_eq_of_sharesBuckets
    (seen : expression.asOf? = some (.ofBase (.grain grain)))
    (shared : first.SharesBuckets grain.unit last) {firstShifted lastShifted : Context}
    (firstFound : expression.shiftedContext? first = some firstShifted)
    (lastFound : expression.shiftedContext? last = some lastShifted) : firstShifted = lastShifted := by
  unfold shiftedContext? at firstFound lastFound
  rw [seen] at firstFound lastFound
  simp only [Context.mapInstants?, Option.bind_eq_bind, Option.bind_eq_some_iff]
    at firstFound lastFound
  obtain ⟨_, firstNow, _, firstEarliest, _, firstLatest, firstSame⟩ := firstFound
  obtain ⟨_, lastNow, _, lastEarliest, _, lastLatest, lastSame⟩ := lastFound
  cases firstSame
  cases lastSame
  have pinned {instant other : Instant} := @shift?_eq_of_same_bucket _ clocks grain _ _
    shared.convention instant other
  rw [pinned shared.now firstNow lastNow, pinned shared.earliest firstEarliest lastEarliest,
    pinned shared.latest firstLatest lastLatest, shared.convention]

end Pinned

/--
In Universal Time, an expression with a grain alone as its as-of anchor has one
range in any two contexts whose instants lie in the same buckets of its unit.
-/
theorem range?_eq_of_same_buckets {expression : Expression}
    (clocks : expression.zone.toZone = Zone.fixed 0) {grain : Grain}
    (seen : expression.asOf? = some (.ofBase (.grain grain))) {first last : Context}
    (shared : first.SharesBuckets grain.unit last) {firstRange lastRange : Range}
    (firstFound : expression.range? first = some firstRange)
    (lastFound : expression.range? last = some lastRange) : firstRange = lastRange := by
  rw [range?_eq_bind, Option.bind_eq_some_iff] at firstFound lastFound
  obtain ⟨firstShifted, firstSeen, firstFound⟩ := firstFound
  obtain ⟨lastShifted, lastSeen, lastFound⟩ := lastFound
  rw [shiftedContext?_eq_of_sharesBuckets clocks seen shared firstSeen lastSeen] at firstFound
  exact Option.some.inj (firstFound.symm.trans lastFound)

/--
As of a week ago, the seven complete days before the end of the data stay the
same from a Friday to the Saturday.
-/
theorem range?_eq_of_same_buckets_of_week :
    ∃ expression firstRange lastRange, parse "-7d,latest:|d|@-1W" = .ok expression ∧
      expression.range? ⟨⟨1710498600000000000, by decide⟩, ⟨1577854800000000000, by decide⟩,
          ⟨1710489600000000000, by decide⟩, .standard⟩ = some firstRange ∧
        expression.range? ⟨⟨1710585000000000000, by decide⟩, ⟨1577854800000000000, by decide⟩,
          ⟨1710576000000000000, by decide⟩, .standard⟩ = some lastRange ∧
          firstRange = lastRange := by
  have lexes : Lexes "-7d,latest:|d|@-1W"
      [.number (-7), .unit .day, .comma, .latest, .colon, .pipe, .unit .day, .pipe, .atSign,
        .number (-1), .unit .week] := by
    unfold Lexes
    decide +kernel
  have read : parse "-7d,latest:|d|@-1W" = .ok ⟨.ofBase (.grain ⟨some (-7), .day⟩), .ofBase .latest,
      some (.complete ⟨none, .day⟩), some ⟨some (.ofBase (.grain ⟨some (-1), .week⟩)), none⟩, true⟩ :=
    parse_of_draft lexes rfl
  have firstFound : (Expression.mk (.ofBase (.grain ⟨some (-7), .day⟩)) (.ofBase .latest)
      (some (.complete ⟨none, .day⟩)) (some ⟨some (.ofBase (.grain ⟨some (-1), .week⟩)), none⟩)
      true).range? ⟨⟨1710498600000000000, by decide⟩, ⟨1577854800000000000, by decide⟩,
        ⟨1710489600000000000, by decide⟩, .standard⟩ =
      some ⟨⟨1708905600000000000, by decide⟩, ⟨1709510400000000000, by decide⟩⟩ := by decide
  have lastFound : (Expression.mk (.ofBase (.grain ⟨some (-7), .day⟩)) (.ofBase .latest)
      (some (.complete ⟨none, .day⟩)) (some ⟨some (.ofBase (.grain ⟨some (-1), .week⟩)), none⟩)
      true).range? ⟨⟨1710585000000000000, by decide⟩, ⟨1577854800000000000, by decide⟩,
        ⟨1710576000000000000, by decide⟩, .standard⟩ =
      some ⟨⟨1708905600000000000, by decide⟩, ⟨1709510400000000000, by decide⟩⟩ := by decide
  have shared : Context.SharesBuckets .week
      ⟨⟨1710498600000000000, by decide⟩, ⟨1577854800000000000, by decide⟩,
        ⟨1710489600000000000, by decide⟩, .standard⟩
      ⟨⟨1710585000000000000, by decide⟩, ⟨1577854800000000000, by decide⟩,
        ⟨1710576000000000000, by decide⟩, .standard⟩ := ⟨rfl, by decide, rfl, by decide⟩
  exact ⟨_, _, _, read, firstFound, lastFound,
    range?_eq_of_same_buckets rfl rfl shared firstFound lastFound⟩

end Expression

end TimeRange
