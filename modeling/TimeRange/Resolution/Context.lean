import TimeRange.Calendar.Convention
import TimeRange.Calendar.Instant

/-!
# Contexts

What an expression is resolved against: the present, the bounds of the data,
and the calendar convention.
-/

namespace TimeRange

open Calendar

/-- The present, the first and the last instant of the data, and the calendar convention. -/
structure Context where
  now : Instant
  earliest : Instant
  latest : Instant
  convention : Convention
  deriving DecidableEq, Repr

namespace Context

def blank : Context :=
  ⟨.epoch, .epoch, .epoch, ⟨0, 0⟩⟩

def atPresent (now : Instant) : Context :=
  ⟨now, now, now, .standard⟩

def withEarliest (context : Context) (earliest : Instant) : Context :=
  { context with earliest := earliest }

def withLatest (context : Context) (latest : Instant) : Context :=
  { context with latest := latest }

/-- The context with another first weekday, which is Monday if the number is no weekday. -/
def withFirstDayOfWeek (context : Context) (day : Nat) : Context :=
  { context with convention :=
      { context.convention with firstDayOfWeek := Convention.validDay day } }

def withFirstMonthOfYear (context : Context) (month : Nat) : Context :=
  { context with convention :=
      { context.convention with firstMonthOfYear := Convention.validMonth month } }

/-- The context with its three instants replaced by those that they are sent to, if each is sent to one. -/
def mapInstants? (context : Context) (send? : Instant → Option Instant) : Option Context := do
  let now ← send? context.now
  let earliest ← send? context.earliest
  let latest ← send? context.latest
  return ⟨now, earliest, latest, context.convention⟩

end Context

end TimeRange
