import TimeRange.Proofs.Grammar.Canonical
import TimeRange.Proofs.Zone.Reach

/-!
# Room for a resolution

A resolution fails only if it leaves the calendar. An anchor is located by two
moves and a rounding, and so leads at most `Anchor.reach` days away from where it
starts, which depends on the counts alone. A resolution locates anchors in a
chain of at most three: an as-of anchor shifts the context, shifts a date in the
shifted context, and from there an anchor of the range is located. So there is
room for every chain if the context and the dates lie far enough from the ends
of the calendar, which dates that can be written do.

The main statement is `resolve_has_room`.
-/

namespace TimeRange

open Calendar

/-! ## Years -/

def Calendar.Instant.year (instant : Instant) : Int :=
  Date.year ⟨instant.nanoseconds / dayLength⟩

theorem Calendar.Date.number_bounds {date : Date} (lower : 0 ≤ date.year)
    (upper : date.year ≤ 9999) : -2999999 ≤ date.number ∧ date.number ≤ 2999999 := by
  have held := monthOf_holds date.number
  have length := monthLength_bounds (monthOf date.number)
  unfold monthLength at length
  have start : -1000000 ≤ monthStart (monthOf date.number)
      ∧ monthStart (monthOf date.number) ≤ 2998000 := by
    unfold Date.year at lower upper
    unfold monthStart yearStart daysBeforeMonth
    rcases leapDays_eq (monthOf date.number / 12) with none | one
    · rw [none]
      omega
    · rw [one]
      omega
  omega

theorem Calendar.Instant.withinDays_of_year {instant : Instant} (lower : 0 ≤ instant.year)
    (upper : instant.year ≤ 9999) : WithinDays 3000000 instant.nanoseconds := by
  have day : -2999999 ≤ instant.nanoseconds / dayLength ∧ instant.nanoseconds / dayLength ≤ 2999999 :=
    Date.number_bounds lower upper
  unfold WithinDays
  unfold dayLength at *
  omega

/-! ## What an anchor counts and names -/

def Base.count? : Base → Option Int
  | .grain step => step.count?
  | _ => none

def Base.date? : Base → Option Date
  | .date day => some day
  | .dateTime day _ => some day
  | _ => none

def Anchor.counts (anchor : Anchor) : List Int :=
  anchor.base.count?.toList ++ (anchor.move?.bind Grain.count?).toList

def Expression.anchors (expression : Expression) : List Anchor :=
  expression.start :: expression.stop :: expression.asOf?.toList

/-- The counts by which the anchors move. The count of a rounding is left out, as it moves nothing. -/
def Expression.counts (expression : Expression) : List Int :=
  expression.anchors.flatMap Anchor.counts

/-- Whether an anchor counts at most `most` units at a time, and names no date outside of four-digit years. -/
structure Anchor.Modest (most : Nat) (anchor : Anchor) : Prop where
  counts : ∀ count ∈ anchor.counts, -most ≤ count ∧ count ≤ most
  years : ∀ date ∈ anchor.base.date?, 0 ≤ date.year ∧ date.year ≤ 9999

/-- How many days two moves by at most `most` units each and a rounding lead away. -/
def Anchor.reach (most : Nat) : Int :=
  2 * (372 * most + 33) + 810

theorem Anchor.reach_nonneg (most : Nat) : 0 ≤ Anchor.reach most := by
  unfold reach
  omega

structure Context.LiesWithin (days : Int) (context : Context) : Prop where
  now : WithinDays days context.now.nanoseconds
  earliest : WithinDays days context.earliest.nanoseconds
  latest : WithinDays days context.latest.nanoseconds

namespace Context.LiesWithin

variable {days further : Int} {context : Context}

theorem mono (within : context.LiesWithin days) (wider : days ≤ further) :
    context.LiesWithin further :=
  ⟨within.now.mono wider, within.earliest.mono wider, within.latest.mono wider⟩

theorem exists_mapInstants? {send? : Instant → Option Instant} (within : context.LiesWithin days)
    (sends : ∀ {instant : Instant}, WithinDays days instant.nanoseconds →
      Instant.Reaches further (send? instant)) :
    ∃ sent, context.mapInstants? send? = some sent ∧ sent.LiesWithin further := by
  obtain ⟨now, nowSent, nowWithin⟩ := sends within.now
  obtain ⟨earliest, earliestSent, earliestWithin⟩ := sends within.earliest
  obtain ⟨latest, latestSent, latestWithin⟩ := sends within.latest
  refine ⟨⟨now, earliest, latest, context.convention⟩, ?_,
    ⟨nowWithin, earliestWithin, latestWithin⟩⟩
  unfold mapInstants?
  rw [nowSent, earliestSent, latestSent]
  rfl

end Context.LiesWithin

/-! ## Locating an anchor -/

variable {zone : Zone} {most : Nat} {days : Int} {context : Context}
  {place? : WallTime → Option Instant} {origin : Instant}

theorem Grain.shift?_reaches (steady : zone.Steady) {grain : Grain}
    (counts : ∀ count ∈ grain.count?, -most ≤ count ∧ count ≤ most) {instant : Instant}
    (within : WithinDays days instant.nanoseconds) (room : days + (372 * most + 33) ≤ 95000000) :
    Instant.Reaches (days + (372 * most + 33)) (grain.shift? zone instant) := by
  have still : Instant.Reaches (days + (372 * most + 33)) (some instant) :=
    (Instant.Reaches.of_within within).mono (by omega)
  rcases grain with ⟨count?, unit⟩
  cases count? with
  | none => exact still
  | some count =>
      obtain ⟨lower, upper⟩ := counts count rfl
      unfold Grain.shift?
      dsimp only
      split
      · exact still
      · exact steady.shift?_reaches within lower upper room

/-- A wall-clock time that a base names lies within the years that can be written. -/
theorem Base.instant?_reaches (steady : zone.Steady) {base : Base}
    (counts : ∀ count ∈ base.count?, -most ≤ count ∧ count ≤ most)
    (years : ∀ date ∈ base.date?, 0 ≤ date.year ∧ date.year ≤ 9999)
    (within : context.LiesWithin days)
    (places : ∀ {wall : WallTime}, WithinDays 3000000 wall.nanoseconds →
      Instant.Reaches days (place? wall))
    (counted : WithinDays days origin.nanoseconds) (room : days + (372 * most + 33) ≤ 95000000) :
    Instant.Reaches (days + (372 * most + 33)) (base.instant? zone context place? origin) := by
  have placed {nanoseconds : Int} (near : WithinDays 3000000 nanoseconds) :
      Instant.Reaches (days + (372 * most + 33))
        ((WallTime.ofNanoseconds? nanoseconds).bind place?) := by
    have found : WallTime.ofNanoseconds? nanoseconds = some ⟨nanoseconds, near.inCalendar (by decide)⟩ :=
      WallTime.ofNanoseconds?_eq_some_iff.mpr rfl
    rw [found, Option.bind_some]
    exact (places near).mono (by omega)
  have known {instant : Instant} (near : WithinDays days instant.nanoseconds) :
      Instant.Reaches (days + (372 * most + 33)) (some instant) :=
    (Instant.Reaches.of_within near).mono (by omega)
  cases base with
  | grain step => exact step.shift?_reaches steady counts counted room
  | date day =>
      obtain ⟨lower, upper⟩ := years day rfl
      have bounds := Date.number_bounds lower upper
      refine placed ?_
      unfold WithinDays dayLength
      omega
  | dateTime day clock =>
      obtain ⟨lower, upper⟩ := years day rfl
      have bounds := Date.number_bounds lower upper
      have hours := clock.hour.isLt
      have minutes := clock.minute.isLt
      refine placed ?_
      unfold WithinDays dayLength ClockTime.minutes secondLength
      omega
  | now => exact known within.now
  | latest => exact known within.latest
  | earliest => exact known within.earliest

namespace Expression

variable {expression : Expression} (steady : expression.zone.toZone.Steady)

include steady

theorem round?_reaches (convention : Convention) (anchor : Anchor) {instant : Instant}
    (within : WithinDays days instant.nanoseconds) (room : days + 810 ≤ 95000000) :
    Instant.Reaches (days + 810) (expression.round? convention anchor instant) := by
  have still : Instant.Reaches (days + 810) (some instant) :=
    (Instant.Reaches.of_within within).mono (by omega)
  have down (unit? : Option TimeUnit) :
      Instant.Reaches (days + 810) (expression.zone.toZone.truncate? convention unit? instant) := by
    cases unit? with
    | none => exact still
    | some unit => exact (steady.truncate?_reaches within convention unit (by omega)).mono (by omega)
  have up (unit? : Option TimeUnit) :
      Instant.Reaches (days + 810) (expression.zone.toZone.ceiling? convention unit? instant) := by
    cases unit? with
    | none => exact still
    | some unit => exact steady.ceiling?_reaches within convention unit room
  unfold round?
  dsimp only
  split
  · exact down _
  · split
    · exact down _
    · exact up _

/-- An anchor leads as far as two moves and a rounding. -/
theorem locate?_reaches {anchor : Anchor} (modest : anchor.Modest most)
    (within : context.LiesWithin days)
    (places : ∀ {wall : WallTime}, WithinDays 3000000 wall.nanoseconds →
      Instant.Reaches days (place? wall))
    (counted : WithinDays days origin.nanoseconds) (room : days + Anchor.reach most ≤ 95000000) :
    Instant.Reaches (days + Anchor.reach most)
      (expression.locate? context place? anchor origin) := by
  unfold Anchor.reach at room ⊢
  obtain ⟨counts, years⟩ := modest
  simp only [Anchor.counts, List.forall_mem_append, Option.mem_toList] at counts
  have based := Base.instant?_reaches steady counts.1 years within places counted (by omega)
  unfold locate?
  refine based.bind fun {base} baseWithin => ?_
  have moved : Instant.Reaches (days + 2 * (372 * most + 33))
      (anchor.move?.elim (some base) fun grain => grain.shift? expression.zone.toZone base) := by
    cases found : anchor.move? with
    | none => exact (Instant.Reaches.of_within baseWithin).mono (by omega)
    | some step =>
        have stepCounts : ∀ count ∈ step.count?, -most ≤ count ∧ count ≤ most :=
          fun count member => counts.2 count (Option.bind_eq_some_iff.mpr ⟨step, found, member⟩)
        exact (step.shift?_reaches steady stepCounts baseWithin (by omega)).mono (by omega)
  refine moved.bind fun movedWithin => ?_
  exact (round?_reaches steady context.convention anchor movedWithin (by omega)).mono (by omega)

/-! ## Resolving an expression -/

section Modest

variable (modest : ∀ anchor ∈ expression.anchors, anchor.Modest most)
  (within : context.LiesWithin days) (far : 3000001 ≤ days)
  (room : days + Anchor.reach most ≤ 95000000)

include modest within far room

theorem shift?_reaches {asOf : Anchor} (seen : expression.asOf? = some asOf) {instant : Instant}
    (near : WithinDays days instant.nanoseconds) :
    Instant.Reaches (days + Anchor.reach most) (expression.shift? context asOf instant) := by
  have asOfModest : asOf.Modest most := by
    apply modest
    rw [anchors, seen]
    exact List.mem_cons_of_mem _ (List.mem_cons_of_mem _ List.mem_cons_self)
  refine locate?_reaches steady asOfModest within (fun wallWithin => ?_) near room
  exact (steady.locate?_reaches wallWithin (by decide)).mono far

theorem exists_shiftedContext? : ∃ shifted, expression.shiftedContext? context = some shifted
    ∧ shifted.LiesWithin (days + Anchor.reach most) := by
  have forward := Anchor.reach_nonneg most
  cases seen : expression.asOf? with
  | none => exact ⟨context, shiftedContext?_of_asOf?_none seen context, within.mono (by omega)⟩
  | some asOf =>
      unfold shiftedContext?
      rw [seen]
      exact within.exists_mapInstants? (shift?_reaches steady modest within far room seen)

theorem place?_reaches {wall : WallTime} (named : WithinDays 3000000 wall.nanoseconds) :
    Instant.Reaches (days + Anchor.reach most) (expression.place? context wall) := by
  have forward := Anchor.reach_nonneg most
  have located := (steady.locate?_reaches named (by decide)).mono far
  unfold place?
  refine located.bind fun instantWithin => ?_
  split
  · exact (Instant.Reaches.of_within instantWithin).mono (by omega)
  · rename_i asOf seen
    exact shift?_reaches steady modest within far room seen instantWithin

end Modest

/-- There is a range if there is room for three anchors in a chain. -/
theorem exists_range? (modest : ∀ anchor ∈ expression.anchors, anchor.Modest most)
    (within : context.LiesWithin 3000001) (room : 3000001 + 3 * Anchor.reach most ≤ 95000000) :
    ∃ range, expression.range? context = some range := by
  have forward := Anchor.reach_nonneg most
  obtain ⟨shifted, seen, shiftedWithin⟩ :=
    exists_shiftedContext? steady modest within (Int.le_refl _) (by omega)
  have chained {anchor : Anchor} (listed : anchor ∈ expression.anchors) {origin : Instant}
      (counted : WithinDays (3000001 + Anchor.reach most) origin.nanoseconds) :
      ∃ instant,
        expression.locate? shifted (expression.place? shifted) anchor origin = some instant := by
    have placed {wall : WallTime} (named : WithinDays 3000000 wall.nanoseconds) :=
      place?_reaches steady modest shiftedWithin (by omega) (by omega) named
    have wider : shifted.LiesWithin (3000001 + Anchor.reach most + Anchor.reach most) :=
      shiftedWithin.mono (by omega)
    obtain ⟨instant, found, _⟩ := locate?_reaches steady (modest anchor listed) wider placed
      (counted.mono (by omega)) (by omega)
    exact ⟨instant, found⟩
  have fromOrigin :
      WithinDays (3000001 + Anchor.reach most) (expression.origin shifted).nanoseconds := by
    unfold origin
    split
    · exact shiftedWithin.latest
    · exact shiftedWithin.now
  obtain ⟨start, startFound⟩ := chained List.mem_cons_self fromOrigin
  obtain ⟨stop, stopFound⟩ := chained (List.mem_cons_of_mem _ List.mem_cons_self) shiftedWithin.now
  refine ⟨⟨start, stop⟩, ?_⟩
  unfold range?
  rw [seen, Option.bind_eq_bind, Option.bind_some]
  dsimp only
  rw [startFound, stopFound]
  rfl

end Expression

/-! ## Expressions that are read -/

theorem WrittenAnchor.Denotes.years {written : WrittenAnchor} {anchor : Anchor}
    (denotes : written.Denotes anchor) (writable : ∀ token ∈ written.tokens, token.Writable) :
    ∀ date ∈ anchor.base.date?, 0 ≤ date.year ∧ date.year ≤ 9999 := by
  rcases written with ⟨writtenBase, move?, truncation?⟩
  rcases anchor with ⟨base, _, _⟩
  obtain ⟨baseDenotes, _, _⟩ := denotes
  simp only [tokens, List.forall_mem_append] at writable
  have baseWritable := writable.1.1
  have bounds {date : Date} {year month day : Nat} (civil : date.HasCivil year month day)
      (fits : year < 10000) : 0 ≤ date.year ∧ date.year ≤ 9999 := by
    rw [← civil.1]
    omega
  intro date named
  cases baseDenotes with
  | grain step => cases named
  | word found =>
      have wordWritable := baseWritable _ List.mem_cons_self
      cases found with
      | now => cases named
      | latest => cases named
      | earliest => cases named
      | date civil =>
          cases named
          exact bounds civil wordWritable
      | dateTime civil _ =>
          cases named
          exact bounds civil wordWritable

/-- Only a part that is there is related to one that is. -/
theorem exists_of_rel_some {Source Target : Type} {relates : Source → Target → Prop}
    {source? : Option Source} {target? : Option Target} (related : Option.Rel relates source? target?)
    {target : Target} (found : target? = some target) :
    ∃ source, source? = some source ∧ relates source target := by
  subst found
  cases related with
  | some holds => exact ⟨_, rfl, holds⟩

namespace Sentence.Denotes

variable {sentence : Sentence} {expression : Expression} (denotes : sentence.Denotes expression)

include denotes

/-- The as-of anchor is denoted by a part of the sentence. -/
theorem exists_of_asOf {asOf : Anchor} (seen : expression.asOf? = some asOf) :
    ∃ written : WrittenAnchor, written.Denotes asOf ∧
      ∀ token ∈ written.tokens, token ∈ sentence.tokens := by
  obtain ⟨viewpoint, found, anchored⟩ := Option.bind_eq_some_iff.mp seen
  obtain ⟨writtenViewpoint, given, viewpointDenotes⟩ := exists_of_rel_some denotes.viewpoint found
  obtain ⟨written, named, anchorDenotes⟩ := exists_of_rel_some viewpointDenotes.asOf anchored
  refine ⟨written, anchorDenotes, fun token member => ?_⟩
  have ofViewpoint : token ∈ writtenViewpoint.tokens := by
    rw [WrittenViewpoint.tokens, named]
    exact List.mem_append_left _ member
  rw [tokens, given]
  exact List.mem_append_right _ (List.mem_cons_of_mem _ ofViewpoint)

theorem zone_mem : expression.zone ∈ NamedZone.catalogue := by
  cases seen : expression.viewpoint?.bind Viewpoint.zone? with
  | none =>
      rw [Expression.zone, seen]
      exact List.mem_cons_self
  | some zone =>
      obtain ⟨viewpoint, found, named⟩ := Option.bind_eq_some_iff.mp seen
      obtain ⟨_, _, viewpointDenotes⟩ := exists_of_rel_some denotes.viewpoint found
      obtain ⟨_, _, known⟩ := exists_of_rel_some viewpointDenotes.zone named
      rw [Expression.zone, seen]
      exact known.1

end Sentence.Denotes

namespace Expression

variable {expression : Expression}

theorem Writable.years (writable : expression.Writable) :
    ∀ anchor ∈ expression.anchors, ∀ date ∈ anchor.base.date?,
      0 ≤ date.year ∧ date.year ≤ 9999 := by
  obtain ⟨sentence, ended, denotes, tokensWritable⟩ := writable
  intro anchor listed
  rcases List.mem_cons.mp listed with rfl | listed
  · refine denotes.start.years fun token member => tokensWritable token ?_
    rw [sentence.tokens_eq]
    exact List.mem_append_left _ member
  rcases List.mem_cons.mp listed with rfl | listed
  · obtain ⟨stop, given⟩ := Option.isSome_iff_exists.mp ended
    have stopDenotes := denotes.stop
    rw [given] at stopDenotes
    refine stopDenotes.years fun token member => tokensWritable token ?_
    rw [sentence.tokens_eq, given]
    refine List.mem_append_right _ (List.mem_append_left _ ?_)
    exact List.mem_cons_of_mem _ member
  · obtain ⟨written, asOfDenotes, within⟩ := denotes.exists_of_asOf (Option.mem_toList.mp listed)
    exact asOfDenotes.years fun token member => tokensWritable token (within token member)

/--
No resolution leaves the calendar as long as no anchor counts more than ten
thousand units at a time and the context lies in the years 1 to 9999, whatever
zone the expression names and whatever the convention is.
-/
theorem resolve_has_room {text : String} {expression : Expression} {context : Context}
    (read : parse text = .ok expression)
    (counts : ∀ count ∈ expression.counts, -10000 ≤ count ∧ count ≤ 10000)
    (years : ∀ instant ∈ [context.now, context.earliest, context.latest],
      1 ≤ instant.year ∧ instant.year ≤ 9999) :
    ∃ range, expression.resolve context = .ok range := by
  obtain ⟨reading, found, rfl⟩ := map_eq_ok_iff.mp read
  have writable := Reading.writable_of_ofText found
  have steady : reading.expression.zone.toZone.Steady := by
    obtain ⟨sentence, _, denotes, _⟩ := writable
    exact Zone.steady_of_mem_catalogue _ denotes.zone_mem
  have modest : ∀ anchor ∈ reading.expression.anchors, anchor.Modest 10000 := by
    intro anchor listed
    refine ⟨fun count member => ?_, writable.years anchor listed⟩
    exact counts count (List.mem_flatMap.mpr ⟨anchor, listed, member⟩)
  have near {instant : Instant} (listed : instant ∈ [context.now, context.earliest, context.latest]) :
      WithinDays 3000001 instant.nanoseconds := by
    obtain ⟨lower, upper⟩ := years instant listed
    exact (Instant.withinDays_of_year (by omega) upper).mono (by decide)
  have within : context.LiesWithin 3000001 := ⟨near (by simp), near (by simp), near (by simp)⟩
  obtain ⟨range, resolved⟩ := exists_range? steady modest within (by decide)
  refine ⟨range, ?_⟩
  unfold resolve
  rw [resolved]

/-- There is room for two moves by ten thousand years before a move by as many months. -/
theorem resolve_has_room_of_long_moves :
    ∃ expression, parse "0001-01-01/Y,latest-10000M:W@now-10000Y{America/New_York}" = .ok expression ∧
      ∃ range, expression.resolve
        ⟨⟨1710498600000000000, by decide⟩, .epoch, .epoch, ⟨9, 0⟩⟩ = .ok range := by
  have lexes : Lexes "0001-01-01/Y,latest-10000M:W@now-10000Y{America/New_York}"
      [.date 1 1 1, .slash, .unit .year, .comma, .latest, .number (-10000), .unit .month, .colon,
        .unit .week, .atSign, .now, .number (-10000), .unit .year, .zone "America/New_York"] := by
    unfold Lexes
    decide +kernel
  have read : parse "0001-01-01/Y,latest-10000M:W@now-10000Y{America/New_York}"
      = .ok ⟨⟨.date ⟨-719162⟩, none, some .year⟩, ⟨.latest, some ⟨some (-10000), .month⟩, none⟩,
        some (.running ⟨none, .week⟩),
        some ⟨some ⟨.now, some ⟨some (-10000), .year⟩, none⟩, some .americaNewYork⟩, true⟩ :=
    parse_of_draft lexes rfl
  exact ⟨_, read, resolve_has_room read (by decide) (by decide)⟩

end Expression

end TimeRange
