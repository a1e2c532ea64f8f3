import TimeRange.Json.Value
import TimeRange.Resolution.Context
import TimeRange.Text.Timestamp

/-!
# Contexts as JSON

A context is stored as a mapping with five fields, its instants as timestamps
in Universal Time. It is read from such a mapping, or from a sequence of the
five values. In a mapping the fields are read in the order of their names, and
only then is it asked whether one is missing; other keys are ignored.
-/

namespace TimeRange

open Calendar Text

namespace Json

def ofInstant (instant : Instant) : Json :=
  .string (String.ofList (Timestamp.ofInstant instant))

def instant : Json → Except JsonError Instant
  | .string text =>
      match Timestamp.read? text.toList with
      | some instant => .ok instant
      | none => .error (.wrongText "input contains invalid characters")
  | found => .error (.wrongType found "an RFC 3339 formatted date and time string")

def natural : Json → Except JsonError Nat
  | .integer value =>
      if 0 ≤ value ∧ value ≤ 4294967295 then .ok value.toNat
      else .error (.wrongInteger value "u32")
  | found => .error (.wrongType found "u32")

def optionalField {α : Type} (read : Json → Except JsonError α) (entries : List (String × Json))
    (key : String) : Except JsonError (Option α) :=
  match field? entries key with
  | none => .ok none
  | some value => some <$> read value

def required {α : Type} (key : String) : Option α → Except JsonError α
  | none => .error (.missingField key)
  | some value => .ok value

/-- Reads the next item of a sequence that should have five items, given how many were read before. -/
def nextItem {α : Type} (read : Json → Except JsonError α) (before : Nat) :
    List Json → Except JsonError (α × List Json)
  | [] => .error (.wrongLength before "struct ResolverContext with 5 elements")
  | item :: rest => (·, rest) <$> read item

end Json

namespace Context

def toJson (context : Context) : Json :=
  .mapping
    [("now", .ofInstant context.now),
      ("min_time", .ofInstant context.earliest),
      ("max_time", .ofInstant context.latest),
      ("first_day_of_week", .integer context.convention.firstDayOfWeek),
      ("first_month_of_year", .integer context.convention.firstMonthOfYear)]

def toJsonSequence (context : Context) : Json :=
  .sequence
    [.ofInstant context.now, .ofInstant context.earliest, .ofInstant context.latest,
      .integer context.convention.firstDayOfWeek, .integer context.convention.firstMonthOfYear]

def ofEntries (entries : List (String × Json)) : Except JsonError Context := do
  let day? ← Json.optionalField Json.natural entries "first_day_of_week"
  let month? ← Json.optionalField Json.natural entries "first_month_of_year"
  let latest? ← Json.optionalField Json.instant entries "max_time"
  let earliest? ← Json.optionalField Json.instant entries "min_time"
  let now? ← Json.optionalField Json.instant entries "now"
  let now ← Json.required "now" now?
  let earliest ← Json.required "min_time" earliest?
  let latest ← Json.required "max_time" latest?
  let day ← Json.required "first_day_of_week" day?
  let month ← Json.required "first_month_of_year" month?
  return ⟨now, earliest, latest, ⟨day, month⟩⟩

def ofItems (items : List Json) : Except JsonError Context := do
  let (now, rest) ← Json.nextItem Json.instant 0 items
  let (earliest, rest) ← Json.nextItem Json.instant 1 rest
  let (latest, rest) ← Json.nextItem Json.instant 2 rest
  let (day, rest) ← Json.nextItem Json.natural 3 rest
  let (month, rest) ← Json.nextItem Json.natural 4 rest
  if rest.isEmpty then return ⟨now, earliest, latest, ⟨day, month⟩⟩
  else .error (.wrongLength items.length "fewer elements in array")

def ofJson : Json → Except JsonError Context
  | .mapping entries => ofEntries entries
  | .sequence items => ofItems items
  | found => .error (.wrongType found "struct ResolverContext")

end Context

end TimeRange
