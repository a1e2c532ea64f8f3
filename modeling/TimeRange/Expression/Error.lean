import TimeRange.Text.Quoted

/-!
# Errors of reading

Why a text is not a time range expression, and the message that says so.
-/

namespace TimeRange

open Text

/-- A piece of a text that does not fit, by its bytes. It is empty where the text ends too early. -/
structure Misfit where
  fragment : String
  start : Nat
  stop : Nat
  deriving DecidableEq, Repr

inductive ReadError where
  /-- The grammar does not go on like this. -/
  | unexpected (misfit : Misfit)
  /-- A named period that there is not. -/
  | unknownPeriod (code : String)
  /-- A duration of which a component cannot be used. -/
  | invalidDuration (text component : String)
  /-- A zone that is not in the catalogue. -/
  | unknownZone (name : String)
  deriving DecidableEq, Repr

namespace Misfit

/-- The quoted fragment, or a phrase in place of an empty one. -/
def description (misfit : Misfit) : String :=
  if misfit.fragment.isEmpty then "end of expression" else quoted misfit.fragment

end Misfit

namespace ReadError

def message : ReadError → String
  | .unexpected misfit => "unexpected " ++ misfit.description ++ " at position " ++ toString misfit.start
  | .unknownPeriod code => "unknown time range macro \"rill-" ++ code ++ "\""
  | .invalidDuration text component =>
      "invalid ISO 8601 duration " ++ quoted text ++ ": cannot use component " ++ quoted component
  | .unknownZone name => "invalid time zone " ++ quoted name

end ReadError

end TimeRange
