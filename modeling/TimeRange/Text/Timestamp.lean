import TimeRange.Calendar.Instant
import TimeRange.Text.Blank
import TimeRange.Text.Decimal

/-!
# Timestamps

A timestamp is a date and a time of day, such as `2024-03-15T10:30:00.500-04:00`.
It is written from a count of nanoseconds on a wall clock and the offset of
that clock, with the fewest of 0, 3, 6 or 9 digits for the fraction of a
second, and a sign before years that do not have four digits. It is read with
some latitude: a blank may stand between date and time, a month, a day, an
hour, a minute or a second may have one digit, and the colon of the offset may
be missing.
-/

namespace TimeRange.Text.Timestamp

open Calendar

/-! ## Writing -/

/-- A year in four digits; outside these, with a sign and at least four digits. -/
def yearText (year : Int) : List Char :=
  if 0 ≤ year ∧ year ≤ 9999 then Decimal.padded 4 year.toNat
  else (if year < 0 then '-' else '+') :: Decimal.padded 4 year.natAbs

def dateText (date : Date) : List Char :=
  yearText date.year ++ '-' :: Decimal.padded 2 date.month.toNat
    ++ '-' :: Decimal.padded 2 date.dayOfMonth.toNat

/-- A fraction of a second given in nanoseconds, in the fewest groups of three digits. -/
def fractionText (nanoseconds : Nat) : List Char :=
  if nanoseconds = 0 then []
  else if nanoseconds % 1000000 = 0 then '.' :: Decimal.padded 3 (nanoseconds / 1000000)
  else if nanoseconds % 1000 = 0 then '.' :: Decimal.padded 6 (nanoseconds / 1000)
  else '.' :: Decimal.padded 9 nanoseconds

def timeText (timeOfDay : Nat) : List Char :=
  let seconds := timeOfDay / 1000000000
  Decimal.padded 2 (seconds / 3600) ++ ':' :: Decimal.padded 2 (seconds / 60 % 60)
    ++ ':' :: Decimal.padded 2 (seconds % 60) ++ fractionText (timeOfDay % 1000000000)

def wallText (mark : Char) (nanoseconds : Int) : List Char :=
  dateText ⟨nanoseconds / dayLength⟩ ++ mark :: timeText (nanoseconds % dayLength).toNat

/-- An offset in hours and minutes, rounded to the nearest minute, with the sign of its seconds. -/
def offsetText (offset : Int) : List Char :=
  let minutes := (offset.natAbs + 30) / 60
  (if offset < 0 then '-' else '+') :: Decimal.padded 2 (minutes / 60)
    ++ ':' :: Decimal.padded 2 (minutes % 60)

def withOffset (nanoseconds offset : Int) : String :=
  String.ofList (wallText 'T' nanoseconds ++ offsetText offset)

def ofInstant (instant : Instant) : List Char :=
  wallText 'T' instant.nanoseconds ++ ['Z']

/-! ## Reading -/

def readDigits? (least most : Nat) (text : List Char) : Option (Nat × List Char) :=
  let digits := (text.takeWhile Char.isDigit).take most
  if least ≤ digits.length then some (Decimal.value digits, text.drop digits.length) else none

def readMark? (marks : List Char) : List Char → Option (List Char)
  | [] => none
  | first :: rest => if first ∈ marks then some rest else none

/-- Reads a year: up to four digits, or any number of digits after a sign. -/
def readYear? (text : List Char) : Option (Int × List Char) :=
  match text with
  | '-' :: rest => do
      let (number, rest) ← readDigits? 1 rest.length rest
      return (-(number : Int), rest)
  | '+' :: rest => do
      let (number, rest) ← readDigits? 1 rest.length rest
      return (number, rest)
  | _ => do
      let (number, rest) ← readDigits? 1 4 text
      return (number, rest)

def readDate? (text : List Char) : Option (Date × List Char) := do
  let (year, rest) ← readYear? text
  let rest ← readMark? ['-'] rest
  let (month, rest) ← readDigits? 1 2 rest
  let rest ← readMark? ['-'] rest
  let (day, rest) ← readDigits? 1 2 rest
  let date ← Date.ofCivil? year month day
  return (date, rest)

/-- Reads a fraction of a second, if there is one, in nanoseconds. Digits after the ninth do not count. -/
def readFraction? (text : List Char) : Option (Nat × List Char) :=
  match text with
  | '.' :: rest =>
      let digits := rest.takeWhile Char.isDigit
      if digits.isEmpty then none
      else
        let counted := digits.take 9
        some (Decimal.value (counted ++ List.replicate (9 - counted.length) '0'),
          rest.drop digits.length)
  | _ => some (0, text)

def readTime? (text : List Char) : Option (Nat × List Char) := do
  let (hour, rest) ← readDigits? 1 2 text
  let rest ← readMark? [':'] rest
  let (minute, rest) ← readDigits? 1 2 rest
  let rest ← readMark? [':'] rest
  let (second, rest) ← readDigits? 1 2 rest
  let (fraction, rest) ← readFraction? rest
  if hour < 24 ∧ minute < 60 ∧ second < 60 then
    return (((hour * 60 + minute) * 60 + second) * 1000000000 + fraction, rest)
  else none

def readOffsetSize? (text : List Char) : Option (Nat × List Char) := do
  let (hours, rest) ← readDigits? 2 2 text
  let (minutes, rest) ← readDigits? 2 2 (rest.dropWhile fun mark => mark == ':' || isBlank mark)
  if minutes < 60 ∧ hours < 24 then return ((hours * 60 + minutes) * 60, rest) else none

def readOffset? (text : List Char) : Option (Int × List Char) :=
  if (text.take 3).map Char.toUpper = ['U', 'T', 'C'] then some (0, text.drop 3)
  else match text with
    | 'Z' :: rest => some (0, rest)
    | 'z' :: rest => some (0, rest)
    | '+' :: rest => do
        let (size, rest) ← readOffsetSize? rest
        return (size, rest)
    | '-' :: rest => do
        let (size, rest) ← readOffsetSize? rest
        return (-(size : Int), rest)
    | '−' :: rest => do
        let (size, rest) ← readOffsetSize? rest
        return (-(size : Int), rest)
    | _ => none

/-- The instant that a whole text stamps, if the calendar covers both it and its wall-clock time. -/
def read? (text : List Char) : Option Instant := do
  let (date, rest) ← readDate? text
  let rest ← readMark? ['T', 't', ' '] rest
  let (timeOfDay, rest) ← readTime? rest
  let (offset, rest) ← readOffset? (dropBlanks rest)
  if (dropBlanks rest).isEmpty then
    let wall ← WallTime.ofNanoseconds? (date.number * dayLength + timeOfDay)
    Instant.ofNanoseconds? (wall.nanoseconds - offset * secondLength)
  else none

end TimeRange.Text.Timestamp
