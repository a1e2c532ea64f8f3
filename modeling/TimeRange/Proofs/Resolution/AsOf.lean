import TimeRange.Proofs.Grammar.Canonical

/-!
# Ranges as of another time

An expression with an as-of anchor is resolved like the expression without it,
against a context whose three instants are shifted. An instant is shifted to
where the as-of anchor lies when grains count from it.

Dates and clock times that are named by the start and the end are shifted as
well, and for these the as-of anchor is located in the shifted context. This
makes a difference only if the anchor is itself an instant of the context, that
is, on `now`, `latest` or `earliest`: these are then shifted a second time.

The main statement is `range?_eq_rangeAt?_of_asOf`.
-/

namespace TimeRange

open Calendar

/-- Whether a base names a wall-clock time. -/
def Base.IsLiteral : Base → Prop
  | .date _ => True
  | .dateTime _ _ => True
  | _ => False

def Base.IsContextual : Base → Prop
  | .now => True
  | .latest => True
  | .earliest => True
  | _ => False

namespace Base

variable {zone : Zone} {base : Base}

/-- Where wall-clock times lie makes no difference to a base that names none. -/
theorem instant?_eq_of_not_isLiteral (unnamed : ¬ base.IsLiteral) (context : Context)
    (place? elsewhere? : WallTime → Option Instant) (origin : Instant) :
    base.instant? zone context place? origin = base.instant? zone context elsewhere? origin := by
  cases base with
  | grain step => rfl
  | date day => exact absurd trivial unnamed
  | dateTime day clock => exact absurd trivial unnamed
  | now => rfl
  | latest => rfl
  | earliest => rfl

/-- The context makes no difference to a base that is none of its instants. -/
theorem instant?_eq_of_not_isContextual (apart : ¬ base.IsContextual) (context other : Context)
    (place? : WallTime → Option Instant) (origin : Instant) :
    base.instant? zone context place? origin = base.instant? zone other place? origin := by
  cases base with
  | grain step => rfl
  | date day => rfl
  | dateTime day clock => rfl
  | now => exact absurd trivial apart
  | latest => exact absurd trivial apart
  | earliest => exact absurd trivial apart

end Base

theorem Context.convention_of_mapInstants? {context sent : Context} {send? : Instant → Option Instant}
    (found : context.mapInstants? send? = some sent) : sent.convention = context.convention := by
  simp only [mapInstants?, Option.bind_eq_bind, Option.bind_eq_some_iff] at found
  obtain ⟨_, _, _, _, _, _, same⟩ := found
  cases same
  rfl

namespace Expression

def withoutAsOf (expression : Expression) : Expression :=
  { expression with viewpoint? := expression.viewpoint?.map fun viewpoint => ⟨none, viewpoint.zone?⟩ }

/-- The range of an expression whose wall-clock times lie where `place?` puts them. -/
def rangeAt? (expression : Expression) (context : Context) (place? : WallTime → Option Instant) :
    Option Range := do
  let start ← expression.locate? context place? expression.start (expression.origin context)
  let stop ← expression.locate? context place? expression.stop context.now
  return ⟨start, stop⟩

/-- An instant as of an anchor: where that lies with grains counted from the instant, and nothing is shifted. -/
def asOfInstant? (expression : Expression) (context : Context) (asOf : Anchor) (instant : Instant) :
    Option Instant :=
  expression.withoutAsOf.locate? context expression.zone.toZone.locate? asOf instant

def asOfPlace? (expression : Expression) (context : Context) (asOf : Anchor) (wall : WallTime) :
    Option Instant := do
  let instant ← expression.zone.toZone.locate? wall
  expression.asOfInstant? context asOf instant

variable {expression : Expression} {context other : Context}
  {place? elsewhere? : WallTime → Option Instant} {anchor : Anchor}

theorem asOf?_withoutAsOf (expression : Expression) : expression.withoutAsOf.asOf? = none := by
  rcases expression with ⟨start, stop, rounding?, viewpoint?, grammatical⟩
  cases viewpoint? <;> rfl

theorem zone_withoutAsOf (expression : Expression) : expression.withoutAsOf.zone = expression.zone := by
  rcases expression with ⟨start, stop, rounding?, viewpoint?, grammatical⟩
  cases viewpoint? <;> rfl

theorem locate?_withoutAsOf (expression : Expression) :
    expression.withoutAsOf.locate? = expression.locate? := by
  funext context place? anchor origin
  unfold locate? round?
  rw [zone_withoutAsOf]
  rfl

theorem locate?_eq_of_not_isLiteral (unnamed : ¬ anchor.base.IsLiteral) (origin : Instant) :
    expression.locate? context place? anchor origin
      = expression.locate? context elsewhere? anchor origin := by
  unfold locate?
  dsimp only
  rw [Base.instant?_eq_of_not_isLiteral unnamed context place? elsewhere?]

theorem locate?_eq_of_not_isContextual (apart : ¬ anchor.base.IsContextual)
    (same : other.convention = context.convention) (origin : Instant) :
    expression.locate? other place? anchor origin
      = expression.locate? context place? anchor origin := by
  unfold locate?
  dsimp only
  rw [same, Base.instant?_eq_of_not_isContextual apart other context]

theorem range?_eq_bind (expression : Expression) (context : Context) :
    expression.range? context = (expression.shiftedContext? context).bind fun shifted =>
      expression.rangeAt? shifted (expression.place? shifted) :=
  rfl

theorem range?_of_asOf?_none (absent : expression.asOf? = none) (context : Context) :
    expression.range? context = expression.rangeAt? context expression.zone.toZone.locate? := by
  have placed : expression.place? context = expression.zone.toZone.locate? := by
    funext wall
    unfold place?
    rw [absent]
    exact bind_pure _
  rw [range?_eq_bind, shiftedContext?_of_asOf?_none absent, Option.bind_some, placed]

/-- The as-of anchor does not matter once the wall-clock times are placed. -/
theorem rangeAt?_withoutAsOf (expression : Expression) :
    expression.withoutAsOf.rangeAt? = expression.rangeAt? := by
  funext context place?
  unfold rangeAt?
  rw [locate?_withoutAsOf]
  rfl

theorem rangeAt?_eq_of_not_isLiteral (startUnnamed : ¬ expression.start.base.IsLiteral)
    (stopUnnamed : ¬ expression.stop.base.IsLiteral) (context : Context)
    (place? elsewhere? : WallTime → Option Instant) :
    expression.rangeAt? context place? = expression.rangeAt? context elsewhere? := by
  unfold rangeAt?
  rw [@locate?_eq_of_not_isLiteral _ _ place? elsewhere? _ startUnnamed,
    @locate?_eq_of_not_isLiteral _ _ place? elsewhere? _ stopUnnamed]

section Shifted

variable {asOf : Anchor} (seen : expression.asOf? = some asOf)

include seen

theorem shiftedContext?_of_asOf (context : Context) :
    expression.shiftedContext? context
      = context.mapInstants? (expression.asOfInstant? context asOf) := by
  have shifts : expression.asOfInstant? context asOf = expression.shift? context asOf := by
    funext instant
    unfold asOfInstant? shift?
    rw [locate?_withoutAsOf]
  unfold shiftedContext?
  rw [seen, shifts]

theorem place?_of_asOf (context : Context) :
    expression.place? context = expression.asOfPlace? context asOf := by
  funext wall
  unfold place? asOfPlace? asOfInstant?
  rw [seen, locate?_withoutAsOf]
  rfl

/--
An expression with an as-of anchor resolves like the expression without it, in
the context whose instants are shifted, with wall-clock times shifted by the
anchor in that context.
-/
theorem range?_eq_rangeAt?_of_asOf (context : Context) :
    expression.range? context =
      (context.mapInstants? (expression.asOfInstant? context asOf)).bind fun shifted =>
        expression.withoutAsOf.rangeAt? shifted (expression.asOfPlace? shifted asOf) := by
  rw [range?_eq_bind, shiftedContext?_of_asOf seen, rangeAt?_withoutAsOf]
  simp only [place?_of_asOf seen]

end Shifted

/-- An anchor that is no instant of the context shifts alike before and after the context is shifted. -/
theorem asOfPlace?_eq_of_not_isContextual {asOf : Anchor} (apart : ¬ asOf.base.IsContextual)
    (same : other.convention = context.convention) :
    expression.asOfPlace? other asOf = expression.asOfPlace? context asOf := by
  funext wall
  unfold asOfPlace? asOfInstant?
  simp only [locate?_eq_of_not_isContextual apart same]

/-- The expression without its as-of anchor places wall-clock times where the zone puts them. -/
theorem range?_withoutAsOf (expression : Expression) (context : Context) :
    expression.withoutAsOf.range? context =
      expression.withoutAsOf.rangeAt? context expression.zone.toZone.locate? := by
  rw [range?_of_asOf?_none expression.asOf?_withoutAsOf, zone_withoutAsOf]

/--
An expression with an as-of anchor resolves like the expression without it, in
the context whose instants are shifted by the anchor. Wall-clock times that the
start and the end name are shifted by the anchor in the shifted context. If the
anchor is no instant of the context, or no wall-clock time is named, then they
can as well be shifted in the given context.
-/
theorem range?_as_of_anchor {expression : Expression} {asOf : Anchor}
    (seen : expression.asOf? = some asOf) (context : Context) :
    (∀ other, expression.withoutAsOf.range? other =
        expression.withoutAsOf.rangeAt? other expression.zone.toZone.locate?) ∧
      (expression.range? context =
        (context.mapInstants? (expression.asOfInstant? context asOf)).bind fun shifted =>
          expression.withoutAsOf.rangeAt? shifted (expression.asOfPlace? shifted asOf)) ∧
      (¬ asOf.base.IsContextual ∨
          ¬ expression.start.base.IsLiteral ∧ ¬ expression.stop.base.IsLiteral →
        expression.range? context =
          (context.mapInstants? (expression.asOfInstant? context asOf)).bind fun shifted =>
            expression.withoutAsOf.rangeAt? shifted (expression.asOfPlace? context asOf)) := by
  refine ⟨expression.range?_withoutAsOf, range?_eq_rangeAt?_of_asOf seen context, ?_⟩
  intro alike
  rw [range?_eq_rangeAt?_of_asOf seen, rangeAt?_withoutAsOf]
  cases found : context.mapInstants? (expression.asOfInstant? context asOf) with
  | none => rw [Option.bind_none, Option.bind_none]
  | some shifted =>
      rw [Option.bind_some, Option.bind_some]
      rcases alike with apart | ⟨startUnnamed, stopUnnamed⟩
      · rw [asOfPlace?_eq_of_not_isContextual apart (Context.convention_of_mapInstants? found)]
      · exact rangeAt?_eq_of_not_isLiteral startUnnamed stopUnnamed _ _ _

/-- As of a day ago, a date and the present are each a day earlier. -/
theorem range?_as_of_day_ago :
    ∃ expression, parse "2024-01-01,now@-1d" = .ok expression ∧
      expression.range? (.atPresent ⟨1710498600000000000, by decide⟩) =
        some ⟨⟨1703980800000000000, by decide⟩, ⟨1710374400000000000, by decide⟩⟩ := by
  have lexes : Lexes "2024-01-01,now@-1d"
      [.date 2024 1 1, .comma, .now, .atSign, .number (-1), .unit .day] := by
    unfold Lexes
    decide +kernel
  have read : parse "2024-01-01,now@-1d" = .ok ⟨.ofBase (.date ⟨19723⟩), .now, none,
      some ⟨some (.ofBase (.grain ⟨some (-1), .day⟩)), none⟩, true⟩ :=
    parse_of_draft lexes rfl
  refine ⟨_, read, ?_⟩
  rw [(range?_as_of_anchor rfl _).2.2 (.inl id)]
  decide

/--
As of the present a day ago, a date is moved to the present two days ago. The
shift by the anchor in the given context would move it by a single day.
-/
theorem range?_as_of_present_shifts_twice :
    ∃ (expression : Expression) (asOf : Anchor) (context : Context),
      parse "2024-01-01,now@now-1d" = .ok expression ∧ expression.asOf? = some asOf ∧
        context.now.nanoseconds = 1710498600000000000 ∧
        expression.range? context =
          some ⟨⟨1710325800000000000, by decide⟩, ⟨1710412200000000000, by decide⟩⟩ ∧
        ((context.mapInstants? (expression.asOfInstant? context asOf)).bind fun shifted =>
            expression.withoutAsOf.rangeAt? shifted (expression.asOfPlace? context asOf)) =
          some ⟨⟨1710412200000000000, by decide⟩, ⟨1710412200000000000, by decide⟩⟩ := by
  have lexes : Lexes "2024-01-01,now@now-1d"
      [.date 2024 1 1, .comma, .now, .atSign, .now, .number (-1), .unit .day] := by
    unfold Lexes
    decide +kernel
  refine ⟨⟨.ofBase (.date ⟨19723⟩), .now, none,
    some ⟨some ⟨.now, some ⟨some (-1), .day⟩, none⟩, none⟩, true⟩, _,
    .atPresent ⟨1710498600000000000, by decide⟩, parse_of_draft lexes rfl, rfl, rfl, ?_, ?_⟩
  · decide
  · decide

end Expression

end TimeRange
