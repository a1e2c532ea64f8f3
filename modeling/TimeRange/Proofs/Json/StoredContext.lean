import TimeRange.Json.Context
import TimeRange.Proofs.Text.Timestamp

/-!
# Stored contexts read back

What is read from a mapping depends only on what its five keys hold, so that
neither the order of the entries nor other keys matter. A stored context is
such a mapping, or the sequence of the five values.

The main statement is `Context.ofJson_toJson`.
-/

namespace TimeRange

open Calendar Text

/-! ## Values -/

namespace Json

theorem instant_ofInstant (stored : Instant) : instant (ofInstant stored) = .ok stored := by
  unfold instant ofInstant
  dsimp only
  rw [String.toList_ofList, Timestamp.read?_ofInstant]

theorem natural_integer {number : Nat} (fits : number ≤ 4294967295) :
    natural (.integer number) = .ok number :=
  if_pos ⟨Int.natCast_nonneg number, Int.ofNat_le.mpr fits⟩

variable {α : Type} {read : Json → Except JsonError α} {stored : Json} {value : α}

theorem optionalField_of_field? {entries : List (String × Json)} {key : String}
    (held : field? entries key = some stored) (reads : read stored = .ok value) :
    optionalField read entries key = .ok (some value) := by
  unfold optionalField
  rw [held]
  exact congrArg (some <$> ·) reads

theorem nextItem_bind (reads : read stored = .ok value) (before : Nat) (rest : List Json)
    {β : Type} (further : α × List Json → Except JsonError β) :
    nextItem read before (stored :: rest) >>= further = further (value, rest) := by
  rw [nextItem, reads]
  rfl

end Json

/-! ## Contexts -/

namespace Context

variable {context : Context}

/-- A mapping with the values of a context under their keys is read as that context, whatever else it holds. -/
theorem ofEntries_of_fields {entries : List (String × Json)}
    (dayFits : context.convention.firstDayOfWeek ≤ 4294967295)
    (monthFits : context.convention.firstMonthOfYear ≤ 4294967295)
    (now : Json.field? entries "now" = some (.ofInstant context.now))
    (earliest : Json.field? entries "min_time" = some (.ofInstant context.earliest))
    (latest : Json.field? entries "max_time" = some (.ofInstant context.latest))
    (day : Json.field? entries "first_day_of_week"
      = some (.integer context.convention.firstDayOfWeek))
    (month : Json.field? entries "first_month_of_year"
      = some (.integer context.convention.firstMonthOfYear)) :
    ofEntries entries = .ok context := by
  unfold ofEntries
  rw [Json.optionalField_of_field? day (Json.natural_integer dayFits),
    Json.optionalField_of_field? month (Json.natural_integer monthFits),
    Json.optionalField_of_field? latest (Json.instant_ofInstant _),
    Json.optionalField_of_field? earliest (Json.instant_ofInstant _),
    Json.optionalField_of_field? now (Json.instant_ofInstant _)]
  rfl

theorem ofItems_values (dayFits : context.convention.firstDayOfWeek ≤ 4294967295)
    (monthFits : context.convention.firstMonthOfYear ≤ 4294967295) :
    ofItems [.ofInstant context.now, .ofInstant context.earliest, .ofInstant context.latest,
      .integer context.convention.firstDayOfWeek, .integer context.convention.firstMonthOfYear]
      = .ok context := by
  simp only [ofItems, Json.nextItem_bind (Json.instant_ofInstant _),
    Json.nextItem_bind (Json.natural_integer dayFits),
    Json.nextItem_bind (Json.natural_integer monthFits)]
  rfl

/-- A context whose convention fits 32 bits is read back from the mapping and from the sequence that store it. -/
theorem ofJson_toJson (context : Context)
    (dayFits : context.convention.firstDayOfWeek ≤ 4294967295)
    (monthFits : context.convention.firstMonthOfYear ≤ 4294967295) :
    ofJson context.toJson = .ok context ∧ ofJson context.toJsonSequence = .ok context :=
  ⟨ofEntries_of_fields dayFits monthFits rfl rfl rfl rfl rfl, ofItems_values dayFits monthFits⟩

/-- Both ends of the calendar, and a convention that names neither a weekday nor a month. -/
theorem ofJson_toJson_of_calendar_ends :
    ofJson (toJson ⟨.epoch, .first, .last, ⟨4294967295, 0⟩⟩)
        = .ok ⟨.epoch, .first, .last, ⟨4294967295, 0⟩⟩ ∧
      ofJson (toJsonSequence ⟨.epoch, .first, .last, ⟨4294967295, 0⟩⟩)
        = .ok ⟨.epoch, .first, .last, ⟨4294967295, 0⟩⟩ :=
  ofJson_toJson ⟨.epoch, .first, .last, ⟨4294967295, 0⟩⟩ (by decide) (by decide)

end Context

end TimeRange
