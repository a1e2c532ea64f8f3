import TimeRange.Expression.Printer
import TimeRange.Expression.Reading
import TimeRange.Json.Value

/-!
# Expressions as JSON

An expression is stored as its canonical text, and read from a text in any
notation.
-/

namespace TimeRange.Expression

def toJson (expression : Expression) : Json :=
  .string expression.canonical

def ofJson : Json → Except JsonError Expression
  | .string text =>
      match parse text with
      | .ok expression => .ok expression
      | .error error => .error (.wrongText error.message)
  | found => .error (.wrongType found "a time range expression")

end TimeRange.Expression
