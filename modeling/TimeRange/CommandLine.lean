import TimeRange.Expression.Printer
import TimeRange.Expression.Reading
import TimeRange.Resolution.Resolve
import TimeRange.Text.Timestamp

/-!
# The command line

The program takes one expression, resolves it, and prints its canonical text
and the two instants of its range. The options `--now`, `--min` and `--max`
give the instants of the context as timestamps, and `--first-day` and
`--first-month` its convention. Each option has its value in the next argument
and is given at most once. An argument that begins with `-` is taken for an
option, and so never for a value, unless `--` comes before it.
-/

namespace TimeRange.CommandLine

open Calendar Text

structure Arguments where
  expression? : Option String
  now? : Option Instant
  earliest? : Option Instant
  latest? : Option Instant
  firstDay? : Option Nat
  firstMonth? : Option Nat
  deriving DecidableEq, Repr

namespace Arguments

def empty : Arguments :=
  ⟨none, none, none, none, none, none⟩

/-- Reads a number that 32 bits can hold, with a plus sign or without. -/
def readNumber? (text : String) : Option Nat :=
  let digits := match text.toList with
    | '+' :: rest => rest
    | characters => characters
  if !digits.isEmpty && digits.all Char.isDigit && Decimal.value digits ≤ 4294967295 then
    some (Decimal.value digits)
  else none

def giveOnce? {α : Type} (before : Option α) (value : Option α) : Option (Option α) :=
  match before, value with
  | none, some value => some (some value)
  | _, _ => none

/-- Adds an option and its value, if there is such an option, it is new and the value can be read. -/
def addOption? (arguments : Arguments) (option value : String) : Option Arguments :=
  match option with
  | "--now" => do
      let now? ← giveOnce? arguments.now? (Timestamp.read? value.toList)
      return { arguments with now? := now? }
  | "--min" => do
      let earliest? ← giveOnce? arguments.earliest? (Timestamp.read? value.toList)
      return { arguments with earliest? := earliest? }
  | "--max" => do
      let latest? ← giveOnce? arguments.latest? (Timestamp.read? value.toList)
      return { arguments with latest? := latest? }
  | "--first-day" => do
      let firstDay? ← giveOnce? arguments.firstDay? (readNumber? value)
      return { arguments with firstDay? := firstDay? }
  | "--first-month" => do
      let firstMonth? ← giveOnce? arguments.firstMonth? (readNumber? value)
      return { arguments with firstMonth? := firstMonth? }
  | _ => none

def addExpression? (arguments : Arguments) (expression : String) : Option Arguments := do
  let expression? ← giveOnce? arguments.expression? (some expression)
  return { arguments with expression? := expression? }

/-- Whether an argument is taken for an option. A single `-` is not. -/
def isOption (argument : String) : Bool :=
  match argument.toList with
  | '-' :: _ :: _ => true
  | _ => false

def add? (arguments : Arguments) : List String → Option Arguments
  | [] => some arguments
  | "--" :: expressions => expressions.foldlM addExpression? arguments
  | argument :: rest =>
      if isOption argument then
        match rest with
        | [] => none
        | value :: rest =>
            if isOption value then none
            else do (← arguments.addOption? argument value).add? rest
      else do (← arguments.addExpression? argument).add? rest

/-- The context that the options give: the data begins and ends at the present unless they say otherwise. -/
def context (arguments : Arguments) (now : Instant) : Context :=
  (Context.atPresent now
    |>.withEarliest (arguments.earliest?.getD now)
    |>.withLatest (arguments.latest?.getD now)
    |>.withFirstDayOfWeek (arguments.firstDay?.getD 1)
    |>.withFirstMonthOfYear (arguments.firstMonth?.getD 1))

end Arguments

structure Outcome where
  code : Nat
  output : String
  errors : String
  deriving DecidableEq, Repr

namespace Outcome

def failure (message : String) : Outcome :=
  ⟨1, "", message ++ "\n"⟩

def misuse : Outcome :=
  ⟨2, "", "usage: --now TIME [--min TIME] [--max TIME] [--first-day N] [--first-month N] [--] EXPR\n"⟩

end Outcome

def timestamp (zone : Zone) (instant : Instant) : String :=
  Timestamp.withOffset (zone.wallNanoseconds instant) (zone.offsetAt instant)

def report (expression : Expression) (range : Range) : String :=
  let zone := expression.zone.toZone
  expression.canonical ++ "\nstart: " ++ timestamp zone range.start
    ++ "\nend:   " ++ timestamp zone range.stop ++ "\n"

def resolve (text : String) (context : Context) : Outcome :=
  match Expression.parse text with
  | .error error => .failure error.message
  | .ok expression =>
      match expression.resolve context with
      | .error error => .failure error.message
      | .ok range => ⟨0, report expression range, ""⟩

def run (arguments : List String) : Outcome :=
  match Arguments.empty.add? arguments with
  | none => .misuse
  | some arguments =>
      match arguments.expression?, arguments.now? with
      | some text, some now => resolve text (arguments.context now)
      | _, _ => .misuse

end TimeRange.CommandLine
