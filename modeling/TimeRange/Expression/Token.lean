import TimeRange.Calendar.TimeUnit

/-!
# Tokens

The tokens of the grammar of expressions, the bounds of the counts that they
can hold, and the spellings of those that are spelled in one way only.
-/

namespace TimeRange

/-- The tokens of the grammar. -/
inductive Token where
  | now
  | latest
  | earliest
  | unit (unit : TimeUnit)
  /-- A zone's name in braces. -/
  | zone (name : String)
  /-- Four, two and two digits; they need not name a date that exists. -/
  | date (year month day : Nat)
  | dateTime (year month day hour minute : Nat)
  | number (value : Int)
  | comma
  | colon
  | atSign
  | pipe
  | slash
  deriving DecidableEq, Repr

def leastCount : Int := -2147483648

def greatestCount : Int := 2147483647

namespace Token

def fixedSpellings : List (List Char × Token) :=
  [(['n', 'o', 'w'], .now),
    (['l', 'a', 't', 'e', 's', 't'], .latest),
    (['e', 'a', 'r', 'l', 'i', 'e', 's', 't'], .earliest),
    ([','], .comma),
    ([':'], .colon),
    (['@'], .atSign),
    (['|'], .pipe),
    (['/'], .slash)]

end Token

end TimeRange
