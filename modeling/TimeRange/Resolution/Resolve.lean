import TimeRange.Expression.Basic
import TimeRange.Resolution.Context
import TimeRange.Zone.Bucket

/-!
# Resolving an expression

An expression is resolved against a context to a range of two instants. Its
anchors are located on the clocks of its zone. Grains count from the present;
those of the start count from the last instant of the data if the range ends
there.

An as-of anchor shifts the present and the bounds of the data before the
anchors are located, and every date that an anchor names as well. An instant
is shifted by locating the as-of anchor with grains counted from it.

The range is not put in order: its start may lie after its end.
-/

namespace TimeRange

open Calendar

structure Range where
  start : Instant
  stop : Instant
  deriving DecidableEq, Repr

inductive ResolveError where
  /-- An instant on the way lies outside the calendar. -/
  | outOfRange
  deriving DecidableEq, Repr

def ResolveError.message : ResolveError → String
  | .outOfRange => "resolved time is outside of the supported range"

/-- Moves an instant by a grain. Without a count, or with a count of zero, it stays as it is. -/
def Grain.shift? (grain : Grain) (zone : Zone) (instant : Instant) : Option Instant :=
  match grain.count? with
  | none => some instant
  | some count => if count = 0 then some instant else zone.shift? grain.unit count instant

namespace Base

/--
The instant of a base. Grains count from `origin`, and `place?` gives the
instant of a wall-clock time that the base names.
-/
def instant? (zone : Zone) (context : Context) (place? : WallTime → Option Instant)
    (origin : Instant) : Base → Option Instant
  | .grain step => step.shift? zone origin
  | .date day => do place? (← WallTime.midnight? day.number)
  | .dateTime day clock => do place? (← WallTime.ofDateTime? day clock)
  | .now => some context.now
  | .latest => some context.latest
  | .earliest => some context.earliest

/-- The unit to which an anchor on a base is rounded by itself, given the unit for running ends. -/
def unit? (roundingUnit? : Option TimeUnit) : Base → Option TimeUnit
  | .grain step => some step.unit
  | .date _ => none
  | .dateTime _ _ => none
  | .now => roundingUnit?
  | .latest => roundingUnit?
  | .earliest => roundingUnit?

def roundsDown (complete : Bool) : Base → Bool
  | .now => complete
  | .latest => complete
  | _ => true

end Base

namespace Expression

/-- Rounds an instant as an anchor asks for: by its truncation if it has one, otherwise by its base. -/
def round? (expression : Expression) (convention : Convention) (anchor : Anchor)
    (instant : Instant) : Option Instant :=
  let zone := expression.zone.toZone
  match anchor.truncation? with
  | some unit => zone.truncate? convention (some unit) instant
  | none =>
      let unit? := anchor.base.unit? expression.roundingUnit?
      if anchor.base.roundsDown expression.isComplete then zone.truncate? convention unit? instant
      else zone.ceiling? convention unit? instant

def locate? (expression : Expression) (context : Context) (place? : WallTime → Option Instant)
    (anchor : Anchor) (origin : Instant) : Option Instant := do
  let zone := expression.zone.toZone
  let base ← anchor.base.instant? zone context place? origin
  let moved ← anchor.move?.elim (some base) fun grain => grain.shift? zone base
  expression.round? context.convention anchor moved

/-- An instant as of an anchor: the anchor's instant, with grains counted from it. -/
def shift? (expression : Expression) (context : Context) (asOf : Anchor) (instant : Instant) :
    Option Instant :=
  expression.locate? context expression.zone.toZone.locate? asOf instant

/-- The context as of the expression's anchor, or the context itself if there is none. -/
def shiftedContext? (expression : Expression) (context : Context) : Option Context :=
  match expression.asOf? with
  | none => some context
  | some asOf => context.mapInstants? (expression.shift? context asOf)

/-- The instant of a wall-clock time that an anchor names, shifted if the expression has an as-of anchor. -/
def place? (expression : Expression) (context : Context) (wall : WallTime) : Option Instant := do
  let instant ← expression.zone.toZone.locate? wall
  match expression.asOf? with
  | none => some instant
  | some asOf => expression.shift? context asOf instant

def origin (expression : Expression) (context : Context) : Instant :=
  if expression.stop.base = .latest then context.latest else context.now

def range? (expression : Expression) (context : Context) : Option Range := do
  let shifted ← expression.shiftedContext? context
  let locate? := expression.locate? shifted (expression.place? shifted)
  let start ← locate? expression.start (expression.origin shifted)
  let stop ← locate? expression.stop shifted.now
  return ⟨start, stop⟩

def resolve (expression : Expression) (context : Context) : Except ResolveError Range :=
  match expression.range? context with
  | some range => .ok range
  | none => .error .outOfRange

theorem shiftedContext?_of_asOf?_none {expression : Expression} (absent : expression.asOf? = none)
    (context : Context) : expression.shiftedContext? context = some context := by
  simp [shiftedContext?, absent]

end Expression

end TimeRange
