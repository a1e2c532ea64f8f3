import TimeRange.Proofs.Resolution.AsOf
import TimeRange.Proofs.Resolution.Headroom

/-!
# Bounds of the data that an expression does not name

The first and the last instant of the data are read where an anchor is on
`earliest` or on `latest`, and the last one as well where the grains of the start
count from it, which they do only if the range ends there. So a bound that no
anchor names makes no difference to a range.

An as-of anchor shifts all three instants of a context before anything is
located. A bound that cannot be shifted keeps an expression from being resolved,
whether or not it is named, and this is all that such a bound can do.

The main statement is `resolve_unaffected_by_unnamed_bound`.
-/

namespace TimeRange

open Calendar

inductive DataBound where
  | earliest
  | latest
  deriving DecidableEq, Repr

def DataBound.base : DataBound → Base
  | .earliest => .earliest
  | .latest => .latest

namespace Context

def withBound (context : Context) : DataBound → Instant → Context
  | .earliest, instant => context.withEarliest instant
  | .latest, instant => context.withLatest instant

variable (context : Context) (bound : DataBound) (instant : Instant)

theorem now_withBound : (context.withBound bound instant).now = context.now := by
  cases bound <;> rfl

theorem convention_withBound : (context.withBound bound instant).convention = context.convention := by
  cases bound <;> rfl

theorem exists_of_mapInstants?_withBound {context sent last : Context} {bound : DataBound}
    {instant : Instant} {send? : Instant → Option Instant}
    (found : context.mapInstants? send? = some sent)
    (lastFound : (context.withBound bound instant).mapInstants? send? = some last) :
    ∃ other, last = sent.withBound bound other := by
  simp only [mapInstants?, Option.bind_eq_bind, Option.bind_eq_some_iff] at found lastFound
  obtain ⟨now, nowSent, earliest, earliestSent, latest, latestSent, same⟩ := found
  obtain ⟨lastNow, lastNowSent, lastEarliest, lastEarliestSent, lastLatest, lastLatestSent,
    lastSame⟩ := lastFound
  cases same
  cases lastSame
  rw [now_withBound] at lastNowSent
  cases nowSent.symm.trans lastNowSent
  cases bound with
  | earliest =>
      cases latestSent.symm.trans lastLatestSent
      exact ⟨lastEarliest, rfl⟩
  | latest =>
      cases earliestSent.symm.trans lastEarliestSent
      exact ⟨lastLatest, rfl⟩

end Context

theorem Base.instant?_withBound {base : Base} {bound : DataBound} (unnamed : base ≠ bound.base)
    (zone : Zone) (context : Context) (instant : Instant) (place? : WallTime → Option Instant)
    (origin : Instant) :
    base.instant? zone (context.withBound bound instant) place? origin
      = base.instant? zone context place? origin := by
  cases base with
  | grain step => rfl
  | date day => rfl
  | dateTime day clock => rfl
  | now => exact congrArg some (context.now_withBound bound instant)
  | latest =>
      cases bound with
      | earliest => rfl
      | latest => exact absurd rfl unnamed
  | earliest =>
      cases bound with
      | earliest => exact absurd rfl unnamed
      | latest => rfl

namespace Expression

/-- Whether the start, the stop or the as-of anchor is on a base. -/
def Names (expression : Expression) (base : Base) : Prop :=
  ∃ anchor ∈ expression.anchors, anchor.base = base

variable {expression : Expression} {bound : DataBound}

theorem start_mem_anchors : expression.start ∈ expression.anchors :=
  List.mem_cons_self

theorem stop_mem_anchors : expression.stop ∈ expression.anchors :=
  List.mem_cons_of_mem _ List.mem_cons_self

theorem asOf_mem_anchors {asOf : Anchor} (seen : expression.asOf? = some asOf) :
    asOf ∈ expression.anchors :=
  List.mem_cons_of_mem _ (List.mem_cons_of_mem _ (Option.mem_toList.mpr seen))

theorem locate?_withBound {anchor : Anchor} (unnamed : anchor.base ≠ bound.base) (context : Context)
    (instant : Instant) (place? : WallTime → Option Instant) (origin : Instant) :
    expression.locate? (context.withBound bound instant) place? anchor origin
      = expression.locate? context place? anchor origin := by
  unfold locate?
  dsimp only
  rw [Base.instant?_withBound unnamed, Context.convention_withBound]

section Unnamed

variable (unnamed : ¬ expression.Names bound.base) (context : Context) (instant : Instant)

include unnamed

theorem base_ne_of_not_names {anchor : Anchor} (listed : anchor ∈ expression.anchors) :
    anchor.base ≠ bound.base :=
  fun named => unnamed ⟨anchor, listed, named⟩

/-- The last instant of the data is where grains count from only if it is named. -/
theorem origin_withBound :
    expression.origin (context.withBound bound instant) = expression.origin context := by
  cases bound with
  | earliest => rfl
  | latest =>
      have elsewhere : expression.stop.base ≠ .latest := base_ne_of_not_names unnamed stop_mem_anchors
      unfold origin
      rw [if_neg elsewhere, if_neg elsewhere]
      rfl

theorem rangeAt?_withBound (place? : WallTime → Option Instant) :
    expression.rangeAt? (context.withBound bound instant) place? = expression.rangeAt? context place? := by
  unfold rangeAt?
  rw [origin_withBound unnamed, Context.now_withBound]
  simp only [locate?_withBound (base_ne_of_not_names unnamed start_mem_anchors),
    locate?_withBound (base_ne_of_not_names unnamed stop_mem_anchors)]

theorem shift?_withBound {asOf : Anchor} (seen : expression.asOf? = some asOf) :
    expression.shift? (context.withBound bound instant) asOf = expression.shift? context asOf :=
  funext (locate?_withBound (base_ne_of_not_names unnamed (asOf_mem_anchors seen)) context instant _)

theorem place?_withBound :
    expression.place? (context.withBound bound instant) = expression.place? context := by
  funext wall
  unfold place?
  cases seen : expression.asOf? with
  | none => rfl
  | some asOf =>
      dsimp only
      rw [shift?_withBound unnamed context instant seen]

/-- The contexts as of an anchor differ in the same bound. -/
theorem exists_of_shiftedContext?_withBound {first last : Context}
    (firstFound : expression.shiftedContext? context = some first)
    (lastFound : expression.shiftedContext? (context.withBound bound instant) = some last) :
    ∃ other, last = first.withBound bound other := by
  unfold shiftedContext? at firstFound lastFound
  cases seen : expression.asOf? with
  | none =>
      rw [seen] at firstFound lastFound
      cases firstFound
      cases lastFound
      exact ⟨instant, rfl⟩
  | some asOf =>
      rw [seen] at firstFound lastFound
      dsimp only at firstFound lastFound
      rw [shift?_withBound unnamed context instant seen] at lastFound
      exact Context.exists_of_mapInstants?_withBound firstFound lastFound

/-- Where an expression has a range in both contexts, it has the same one. -/
theorem range?_withBound_unique {first last : Range}
    (firstFound : expression.range? context = some first)
    (lastFound : expression.range? (context.withBound bound instant) = some last) : first = last := by
  rw [range?_eq_bind, Option.bind_eq_some_iff] at firstFound lastFound
  obtain ⟨firstShifted, firstSeen, firstFound⟩ := firstFound
  obtain ⟨lastShifted, lastSeen, lastFound⟩ := lastFound
  obtain ⟨other, rfl⟩ := exists_of_shiftedContext?_withBound unnamed context instant firstSeen lastSeen
  rw [rangeAt?_withBound unnamed, place?_withBound unnamed, firstFound] at lastFound
  exact Option.some.inj lastFound

theorem range?_withBound_of_asOf?_none (absent : expression.asOf? = none) :
    expression.range? (context.withBound bound instant) = expression.range? context := by
  rw [range?_of_asOf?_none absent, range?_of_asOf?_none absent, rangeAt?_withBound unnamed]

end Unnamed

-- with an as-of anchor, a bound that cannot be shifted leaves no range, although no anchor names it
example : (Expression.mk (.ofBase .now) (.ofBase .now) none
      (some ⟨some (.ofBase (.grain ⟨some (-1), .day⟩)), none⟩) true).range?
    ((Context.atPresent .epoch).withBound .earliest .first) = none := by
  decide +kernel

theorem resolve_eq_ok_iff {context : Context} {range : Range} :
    expression.resolve context = .ok range ↔ expression.range? context = some range := by
  unfold resolve
  cases expression.range? context <;> simp

/--
If no anchor of an expression names a bound of the data, then the expression is
resolved to the same range in any two contexts that differ in this bound only and
in which it is resolved. If it has no as-of anchor either, then it is resolved in
both or in neither.
-/
theorem resolve_unaffected_by_unnamed_bound {expression : Expression} {bound : DataBound}
    (unnamed : ¬ expression.Names bound.base) (context : Context) (instant : Instant) :
    (∀ first last, expression.resolve context = .ok first →
        expression.resolve (context.withBound bound instant) = .ok last → first = last) ∧
      (expression.asOf? = none →
        expression.resolve (context.withBound bound instant) = expression.resolve context) := by
  refine ⟨?_, ?_⟩
  · intro first last firstResolved lastResolved
    rw [resolve_eq_ok_iff] at firstResolved lastResolved
    exact range?_withBound_unique unnamed context instant firstResolved lastResolved
  · intro absent
    unfold resolve
    rw [range?_withBound_of_asOf?_none unnamed context instant absent]

/--
The seven days up to the last instant of the data, as of the start of last week
in Paris, are the same wherever the data begins.
-/
theorem resolve_unaffected_by_unnamed_bound_of_last_week :
    ∃ expression first last, parse "-7d,latest@-1W\x7bEurope/Paris\x7d" = .ok expression ∧
      expression.resolve (.atPresent ⟨1710498600000000000, by decide⟩) = .ok first ∧
        expression.resolve ((Context.atPresent ⟨1710498600000000000, by decide⟩).withBound .earliest
          .epoch) = .ok last ∧ first = last := by
  have lexes : Lexes "-7d,latest@-1W\x7bEurope/Paris\x7d"
      [.number (-7), .unit .day, .comma, .latest, .atSign, .number (-1), .unit .week,
        .zone "Europe/Paris"] := by
    unfold Lexes
    decide +kernel
  have read : parse "-7d,latest@-1W\x7bEurope/Paris\x7d" = .ok ⟨.ofBase (.grain ⟨some (-7), .day⟩),
      .ofBase .latest, none, some ⟨some (.ofBase (.grain ⟨some (-1), .week⟩)),
        some NamedZone.europeParis⟩, true⟩ :=
    parse_of_draft lexes rfl
  generalize expressionEq : Expression.mk (.ofBase (.grain ⟨some (-7), .day⟩)) (.ofBase .latest) none
    (some ⟨some (.ofBase (.grain ⟨some (-1), .week⟩)), some NamedZone.europeParis⟩) true
      = expression at read
  have unnamed : ¬ expression.Names DataBound.earliest.base := by
    subst expressionEq
    unfold Names
    decide
  have found : expression.range? (.atPresent ⟨1710498600000000000, by decide⟩)
      = some ⟨⟨1708902000000000000, by decide⟩, ⟨1709506800000000000, by decide⟩⟩ := by
    subst expressionEq
    decide +kernel
  have foundAgain : (expression.range? ((Context.atPresent ⟨1710498600000000000, by decide⟩).withBound
      .earliest .epoch)).isSome = true := by
    subst expressionEq
    decide +kernel
  obtain ⟨last, foundAgain⟩ := Option.isSome_iff_exists.mp foundAgain
  have resolved := resolve_eq_ok_iff.mpr found
  have resolvedAgain := resolve_eq_ok_iff.mpr foundAgain
  exact ⟨expression, _, last, read, resolved, resolvedAgain,
    (resolve_unaffected_by_unnamed_bound unnamed _ _).1 _ _ resolved resolvedAgain⟩

end Expression

end TimeRange
