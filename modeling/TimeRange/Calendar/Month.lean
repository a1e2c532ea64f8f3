/-!
# Months and years as day numbers

Days are numbered by integers, day 0 being 1970-01-01, and months by integers
too, month 0 being January of year 0. The proleptic Gregorian calendar is the
function `monthStart` from month numbers to day numbers, and `monthOf` is its
inverse, the month that holds a day. Month arithmetic is then integer
arithmetic on month numbers, whatever the lengths of the months.

The main statements are `monthOf_holds`, that a day lies in its month, and
`monthStart_lt_iff`, that months follow one another in the order of their
numbers; together they determine `monthOf`.
-/

namespace TimeRange.Calendar

/-! ## Years -/

/-- Every fourth year is a leap year, save the centuries that 400 does not divide. -/
def isLeapYear (year : Int) : Bool :=
  year % 4 == 0 && (year % 100 != 0 || year % 400 == 0)

def leapDays (year : Int) : Int :=
  if isLeapYear year then 1 else 0

theorem leapDays_eq (year : Int) : leapDays year = 0 ∨ leapDays year = 1 := by
  unfold leapDays
  split
  · exact .inr rfl
  · exact .inl rfl

def yearStart (year : Int) : Int :=
  365 * (year - 1) + (year - 1) / 4 - (year - 1) / 100 + (year - 1) / 400 - 719162

theorem yearStart_succ (year : Int) :
    yearStart (year + 1) = yearStart year + 365 + leapDays year := by
  simp only [yearStart, leapDays, isLeapYear, Bool.and_eq_true, Bool.or_eq_true,
    beq_iff_eq, bne_iff_ne]
  split <;> omega

/--
The year that holds a day. Days are counted off in cycles of 400, 100, 4 and
1 years; the last century of a cycle of 400 and the last year of a cycle of 4
are a day longer, which the two minima absorb.
-/
def yearOf (day : Int) : Int :=
  let inEra := (day + 719162) % 146097
  let century := min (inEra / 36524) 3
  let inCentury := inEra - 36524 * century
  400 * ((day + 719162) / 146097) + 100 * century + 4 * (inCentury / 1461)
    + min (inCentury % 1461 / 365) 3 + 1

theorem yearOf_holds (day : Int) :
    yearStart (yearOf day) ≤ day ∧ day < yearStart (yearOf day + 1) := by
  simp only [yearStart, yearOf]
  generalize eraEq : (day + 719162) / 146097 = era
  generalize inEraEq : (day + 719162) % 146097 = inEra
  generalize centuryEq : min (inEra / 36524) 3 = century
  generalize fourEq : (inEra - 36524 * century) / 1461 = four
  generalize inFourEq : (inEra - 36524 * century) % 1461 = inFour
  generalize oneEq : min (inFour / 365) 3 = one
  have centuryBounds : 0 ≤ century ∧ century ≤ 3 := by omega
  have inCenturyBounds : 36524 * century ≤ inEra ∧ inEra - 36524 * century ≤ 36524 := by omega
  have fourBounds : 0 ≤ four ∧ four ≤ 24 := by omega
  have oneBounds : 0 ≤ one ∧ one ≤ 3 := by omega
  have short : century < 3 → inEra - 36524 * century < 36524 := by omega
  have quarter : (400 * era + 100 * century + 4 * four + one + 1 - 1) / 4
      = 100 * era + 25 * century + four := by omega
  have hundredth : (400 * era + 100 * century + 4 * four + one + 1 - 1) / 100
      = 4 * era + century := by omega
  have eras : (400 * era + 100 * century + 4 * four + one + 1 - 1) / 400 = era := by omega
  have nextQuarter : (400 * era + 100 * century + 4 * four + one + 1 + 1 - 1) / 4
      = 100 * era + 25 * century + four + (if one = 3 then 1 else 0) := by omega
  have nextHundredth : (400 * era + 100 * century + 4 * four + one + 1 + 1 - 1) / 100
      = 4 * era + century + (if one = 3 ∧ four = 24 then 1 else 0) := by omega
  have nextEras : (400 * era + 100 * century + 4 * four + one + 1 + 1 - 1) / 400
      = era + (if one = 3 ∧ four = 24 ∧ century = 3 then 1 else 0) := by omega
  rw [quarter, hundredth, eras, nextQuarter, nextHundredth, nextEras]
  clear quarter hundredth eras nextQuarter nextHundredth nextEras
  constructor
  · omega
  · by_cases lastOfFour : one = 3
    · by_cases lastFour : four = 24
      · by_cases lastCentury : century = 3
        · simp [lastOfFour, lastFour, lastCentury]
          omega
        · simp [lastOfFour, lastFour, lastCentury]
          omega
      · simp [lastOfFour, lastFour]
        omega
    · simp [lastOfFour]
      omega

/-! ## Months -/

/--
The days of a year that precede a month, January being month 1, in a year with
the given number of leap days. The quotient spreads the months evenly over a
year in which February has thirty days, and the missing days are taken off
from March on.
-/
def daysBeforeMonth (leap month : Int) : Int :=
  (367 * month - 362) / 12 - (if month ≤ 2 then 0 else 2 - leap)

def monthAfter (leap elapsed : Int) : Int :=
  (12 * (elapsed + (if elapsed < 59 + leap then 0 else 2 - leap)) + 373) / 367

theorem monthAfter_holds {leap elapsed : Int} (known : leap = 0 ∨ leap = 1)
    (lower : 0 ≤ elapsed) (upper : elapsed < 365 + leap) :
    1 ≤ monthAfter leap elapsed ∧ monthAfter leap elapsed ≤ 12 ∧
      daysBeforeMonth leap (monthAfter leap elapsed) ≤ elapsed ∧
      elapsed < daysBeforeMonth leap (monthAfter leap elapsed + 1) := by
  unfold monthAfter daysBeforeMonth
  rcases known with rfl | rfl <;> omega

def monthStart (month : Int) : Int :=
  yearStart (month / 12) + daysBeforeMonth (leapDays (month / 12)) (month % 12 + 1)

def monthLength (month : Int) : Int :=
  monthStart (month + 1) - monthStart month

def monthOf (day : Int) : Int :=
  12 * yearOf day + monthAfter (leapDays (yearOf day)) (day - yearStart (yearOf day)) - 1

/-- January of the year after starts where a thirteenth month of this one would. -/
theorem monthStart_of_year (year month : Int) (lower : 1 ≤ month) (upper : month ≤ 13) :
    monthStart (12 * year + month - 1) = yearStart year + daysBeforeMonth (leapDays year) month := by
  unfold monthStart
  by_cases last : month = 13
  · rw [show (12 * year + month - 1) / 12 = year + 1 by omega,
      show (12 * year + month - 1) % 12 + 1 = 1 by omega, yearStart_succ, last]
    simp only [daysBeforeMonth]
    omega
  · rw [show (12 * year + month - 1) / 12 = year by omega,
      show (12 * year + month - 1) % 12 + 1 = month by omega]

theorem monthLength_bounds (month : Int) : 28 ≤ monthLength month ∧ monthLength month ≤ 31 := by
  have here := monthStart_of_year (month / 12) (month % 12 + 1) (by omega) (by omega)
  have next := monthStart_of_year (month / 12) (month % 12 + 2) (by omega) (by omega)
  rw [show 12 * (month / 12) + (month % 12 + 1) - 1 = month by omega] at here
  rw [show 12 * (month / 12) + (month % 12 + 2) - 1 = month + 1 by omega] at next
  unfold monthLength
  rw [here, next]
  unfold daysBeforeMonth
  rcases leapDays_eq (month / 12) with none | one
  · rw [none]
    omega
  · rw [one]
    omega

theorem monthStart_lt_succ (month : Int) : monthStart month < monthStart (month + 1) := by
  have bounds := monthLength_bounds month
  unfold monthLength at bounds
  omega

theorem monthOf_holds (day : Int) :
    monthStart (monthOf day) ≤ day ∧ day < monthStart (monthOf day + 1) := by
  have inYear := yearOf_holds day
  rw [yearStart_succ] at inYear
  obtain ⟨first, last, lower, upper⟩ := monthAfter_holds (leapDays_eq (yearOf day))
    (show 0 ≤ day - yearStart (yearOf day) by omega) (by omega)
  generalize monthEq : monthAfter (leapDays (yearOf day)) (day - yearStart (yearOf day)) = month at *
  have here := monthStart_of_year (yearOf day) month first (by omega)
  have next := monthStart_of_year (yearOf day) (month + 1) (by omega) (by omega)
  rw [show 12 * yearOf day + (month + 1) - 1 = 12 * yearOf day + month - 1 + 1 by omega] at next
  unfold monthOf
  rw [monthEq, here, next]
  omega

theorem monthStart_lt_of_lt {first last : Int} (before : first < last) :
    monthStart first < monthStart last := by
  obtain ⟨gap, rfl⟩ : ∃ gap : Nat, last = first + 1 + gap :=
    ⟨(last - first - 1).toNat, by omega⟩
  clear before
  induction gap with
  | zero => simpa using monthStart_lt_succ first
  | succ gap ih =>
      have step := monthStart_lt_succ (first + 1 + gap)
      rw [show first + 1 + ((gap + 1 : Nat) : Int) = first + 1 + gap + 1 by omega]
      omega

theorem monthStart_lt_iff (first last : Int) :
    monthStart first < monthStart last ↔ first < last := by
  constructor
  · intro before
    rcases Int.lt_trichotomy first last with less | same | more
    · exact less
    · rw [same] at before
      exact absurd before (Int.lt_irrefl _)
    · exact absurd before (Int.not_lt.mpr (Int.le_of_lt (monthStart_lt_of_lt more)))
  · exact monthStart_lt_of_lt

/-- A day's month is the only one whose days include it. -/
theorem monthOf_eq {day month : Int} (lower : monthStart month ≤ day)
    (upper : day < monthStart (month + 1)) : monthOf day = month := by
  have held := monthOf_holds day
  have notLess := (monthStart_lt_iff (monthOf day) (month + 1)).mp (by omega)
  have notMore := (monthStart_lt_iff month (monthOf day + 1)).mp (by omega)
  omega

theorem monthOf_monthStart (month : Int) : monthOf (monthStart month) = month :=
  monthOf_eq (Int.le_refl _) (monthStart_lt_succ month)

/-! ## Days -/

/-- The weekday of a day, from 1 for Monday to 7 for Sunday. -/
def weekday (day : Int) : Int :=
  (day + 3) % 7 + 1

/--
The day a number of months away. The day of the month is kept, save that a
day which the other month lacks becomes its last one.
-/
def addMonths (day count : Int) : Int :=
  let target := monthOf day + count
  monthStart target + min (day - monthStart (monthOf day)) (monthLength target - 1)

theorem monthOf_addMonths (day count : Int) :
    monthOf (addMonths day count) = monthOf day + count := by
  have held := monthOf_holds day
  have bounds := monthLength_bounds (monthOf day + count)
  apply monthOf_eq <;> simp only [addMonths, monthLength] at bounds ⊢ <;> omega

end TimeRange.Calendar
