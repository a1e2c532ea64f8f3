import TimeRange.Calendar.Month

/-!
# Dates and times of day

A date is a day of the calendar; its year, month and day of the month are
read off its number. A date is also found from these three, when they name a
day that exists. A clock time is an hour and a minute of a day.

The main statement is `Date.ofCivil?_eq_some_iff`: three numbers name a date
exactly when they are the ones that it is read as.
-/

namespace TimeRange.Calendar

structure Date where
  number : Int
  deriving DecidableEq, Repr

namespace Date

/-- The year, in which 0 is the year before 1. -/
def year (date : Date) : Int :=
  monthOf date.number / 12

def month (date : Date) : Int :=
  monthOf date.number % 12 + 1

def dayOfMonth (date : Date) : Int :=
  date.number - monthStart (monthOf date.number) + 1

/-- The date with this year, month and day of the month, if that month has such a day. -/
def ofCivil? (year month dayOfMonth : Int) : Option Date :=
  let index := 12 * year + month - 1
  if 1 ≤ month ∧ month ≤ 12 ∧ 1 ≤ dayOfMonth ∧ dayOfMonth ≤ monthLength index then
    some ⟨monthStart index + dayOfMonth - 1⟩
  else none

theorem month_bounds (date : Date) : 1 ≤ date.month ∧ date.month ≤ 12 := by
  unfold month
  omega

theorem dayOfMonth_bounds (date : Date) : 1 ≤ date.dayOfMonth ∧ date.dayOfMonth ≤ 31 := by
  have held := monthOf_holds date.number
  have bounds := monthLength_bounds (monthOf date.number)
  unfold monthLength at bounds
  unfold dayOfMonth
  omega

theorem ofCivil?_civil (date : Date) :
    ofCivil? date.year date.month date.dayOfMonth = some date := by
  have held := monthOf_holds date.number
  have index : 12 * date.year + date.month - 1 = monthOf date.number := by
    unfold year month
    omega
  have bounds := date.month_bounds
  unfold ofCivil?
  simp only [index, monthLength]
  rw [if_pos (by unfold dayOfMonth; omega)]
  congr 1
  unfold dayOfMonth
  rw [show monthStart (monthOf date.number)
    + (date.number - monthStart (monthOf date.number) + 1) - 1 = date.number by omega]

theorem ofCivil?_eq_some_iff {year month dayOfMonth : Int} {date : Date} :
    ofCivil? year month dayOfMonth = some date ↔
      year = date.year ∧ month = date.month ∧ dayOfMonth = date.dayOfMonth := by
  constructor
  · intro found
    simp only [ofCivil?] at found
    split at found
    · rename_i exists_
      cases Option.some.inj found
      have held : monthOf (monthStart (12 * year + month - 1) + dayOfMonth - 1)
          = 12 * year + month - 1 := by
        unfold monthLength at exists_
        apply monthOf_eq <;> omega
      simp only [Date.year, Date.month, Date.dayOfMonth, held]
      omega
    · cases found
  · rintro ⟨rfl, rfl, rfl⟩
    exact ofCivil?_civil date

end Date

structure ClockTime where
  hour : Fin 24
  minute : Fin 60
  deriving DecidableEq, Repr

namespace ClockTime

def ofNumbers? (hour minute : Nat) : Option ClockTime :=
  if fits : hour < 24 ∧ minute < 60 then some ⟨⟨hour, fits.1⟩, ⟨minute, fits.2⟩⟩ else none

def minutes (clock : ClockTime) : Int :=
  60 * (clock.hour.val : Int) + clock.minute.val

end ClockTime

end TimeRange.Calendar
