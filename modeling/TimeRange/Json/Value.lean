import TimeRange.Text.Quoted
import TimeRange.Text.Shortest

/-!
# JSON values

The values that contexts and expressions are stored as, and the errors of
reading them back. A number is an integer if it is written as one and 64 bits
can hold it; any other number is a decimal, which is held in binary.
-/

namespace TimeRange

open Text

inductive Json where
  | null
  | boolean (value : Bool)
  | integer (value : Int)
  /-- A natural number times a power of ten, with its sign. -/
  | decimal (negative : Bool) (number : Nat) (exponent : Int)
  | string (text : String)
  | sequence (items : List Json)
  | mapping (entries : List (String × Json))
  deriving BEq, Repr, Inhabited

namespace Json

/-- A number without a fraction. It is a decimal if 64 bits cannot hold it. -/
def ofWhole (value : Int) : Json :=
  if -9223372036854775808 ≤ value ∧ value ≤ 18446744073709551615 then .integer value
  else .decimal (value < 0) value.natAbs 0

/--
Messages write decimals out from `0.00001` to below `10 ^ 16`, and any other with
a power of ten.
-/
def decimalLayout : DecimalLayout :=
  ⟨-5, 16⟩

def description : Json → String
  | .null => "null"
  | .boolean value => "boolean `" ++ (if value then "true" else "false") ++ "`"
  | .integer value => "integer `" ++ String.ofList (Decimal.integer value) ++ "`"
  | .decimal negative number exponent =>
      "floating point `" ++ (if negative then "-" else "")
        ++ String.ofList ((Binary.ofDecimal number exponent).text decimalLayout) ++ "`"
  | .string text => "string " ++ quoted text
  | .sequence _ => "sequence"
  | .mapping _ => "map"

def field? (entries : List (String × Json)) (key : String) : Option Json :=
  entries.lookup key

end Json

inductive JsonError where
  | wrongType (found : Json) (expected : String)
  /-- An integer that is out of bounds. -/
  | wrongInteger (found : Int) (expected : String)
  /-- A sequence of a wrong length. -/
  | wrongLength (found : Nat) (expected : String)
  | missingField (name : String)
  /-- A text that does not denote what it should, for a reason of its own. -/
  | wrongText (reason : String)

def JsonError.message : JsonError → String
  | .wrongType found expected => "invalid type: " ++ found.description ++ ", expected " ++ expected
  | .wrongInteger found expected =>
      "invalid value: " ++ (Json.integer found).description ++ ", expected " ++ expected
  | .wrongLength found expected =>
      "invalid length " ++ toString found ++ ", expected " ++ expected
  | .missingField name => "missing field `" ++ name ++ "`"
  | .wrongText reason => reason

end TimeRange
