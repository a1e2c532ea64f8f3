import TimeRange.Zone.Basic

/-!
# Yearly rules

Most zones with summer time change their clocks twice a year by a rule of the
form "the last Sunday of March at one in the morning". Over a range of years
such a rule stands for two transitions a year.
-/

namespace TimeRange

open Calendar

structure YearlyChange where
  /-- From 1 for January to 12 for December. -/
  month : Int
  /-- Which of the weekdays of the month, counted from 1; the fifth stands for the last. -/
  week : Int
  /-- From 1 for Monday to 7 for Sunday. -/
  weekday : Int
  /-- Seconds after midnight on the wall clock as it stands before the change. -/
  wallSecond : Int
  /-- The offset from the change on, in seconds east of Universal Time. -/
  offset : Int
  deriving DecidableEq, Repr

namespace YearlyChange

def day (change : YearlyChange) (year : Int) : Int :=
  let index := 12 * year + change.month - 1
  if change.week = 5 then
    let lastDay := monthStart (index + 1) - 1
    lastDay - (Calendar.weekday lastDay - change.weekday) % 7
  else
    let firstDay := monthStart index
    firstDay + (change.weekday - Calendar.weekday firstDay) % 7 + 7 * (change.week - 1)

def transition (change : YearlyChange) (offsetBefore year : Int) : Transition :=
  ⟨change.day year * 86400 + change.wallSecond - offsetBefore, change.offset⟩

end YearlyChange

/-- Two changes that are made every year, in this order, from a first year to a last one. -/
structure YearlyRule where
  firstYear : Int
  lastYear : Int
  first : YearlyChange
  second : YearlyChange
  deriving DecidableEq, Repr

namespace YearlyRule

def years (rule : YearlyRule) : List Int :=
  (List.range (rule.lastYear - rule.firstYear + 1).toNat).map fun index : Nat =>
    rule.firstYear + (index : Int)

/-- The transitions of a rule. Each change ends the offset that the other one began. -/
def transitions (rule : YearlyRule) : List Transition :=
  rule.years.flatMap fun year =>
    [rule.first.transition rule.second.offset year, rule.second.transition rule.first.offset year]

end YearlyRule

end TimeRange
