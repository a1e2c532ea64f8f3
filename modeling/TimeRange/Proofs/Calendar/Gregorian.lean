import TimeRange.Calendar.Date

/-!
# Dates that exist

Months and days are found by arithmetic on day numbers. The Gregorian calendar
is commonly stated by a table of the lengths of the months. The two agree:
`monthLength_of_year` gives the table, and `exists_hasCivil_iff` says that
three numbers are those of a date exactly when the table allows them.
-/

namespace TimeRange.Calendar

/-- The number of days of a month, by the table. -/
def daysOfMonth (year month : Int) : Int :=
  if month = 2 then if isLeapYear year then 29 else 28
  else if month = 4 ∨ month = 6 ∨ month = 9 ∨ month = 11 then 30
  else 31

theorem monthLength_of_year (year month : Int) (lower : 1 ≤ month) (upper : month ≤ 12) :
    monthLength (12 * year + month - 1) = daysOfMonth year month := by
  have here := monthStart_of_year year month lower (by omega)
  have next := monthStart_of_year year (month + 1) (by omega) (by omega)
  rw [show 12 * year + (month + 1) - 1 = 12 * year + month - 1 + 1 by omega] at next
  have named : month = 1 ∨ month = 2 ∨ month = 3 ∨ month = 4 ∨ month = 5 ∨ month = 6 ∨ month = 7
      ∨ month = 8 ∨ month = 9 ∨ month = 10 ∨ month = 11 ∨ month = 12 := by omega
  unfold monthLength daysOfMonth
  rw [here, next, Int.add_sub_add_left]
  cases known : isLeapYear year <;>
    rcases named with rfl | rfl | rfl | rfl | rfl | rfl | rfl | rfl | rfl | rfl | rfl | rfl <;>
    simp [daysBeforeMonth, leapDays, known]

def IsDate (year month day : Int) : Prop :=
  1 ≤ month ∧ month ≤ 12 ∧ 1 ≤ day ∧ day ≤ daysOfMonth year month

instance (year month day : Int) : Decidable (IsDate year month day) :=
  inferInstanceAs (Decidable (_ ∧ _ ∧ _ ∧ _))

def Date.HasCivil (date : Date) (year month day : Int) : Prop :=
  year = date.year ∧ month = date.month ∧ day = date.dayOfMonth

theorem Date.HasCivil.unique {first second : Date} {year month day : Int}
    (left : first.HasCivil year month day) (right : second.HasCivil year month day) :
    first = second := by
  have found := Date.ofCivil?_eq_some_iff.mpr left
  rw [Date.ofCivil?_eq_some_iff.mpr right] at found
  exact (Option.some.inj found).symm

/-- A date has the numbers that the table allows, and no others. -/
theorem exists_hasCivil_iff {year month day : Int} :
    (∃ date : Date, date.HasCivil year month day) ↔ IsDate year month day := by
  have sameLength (lower : 1 ≤ month) (upper : month ≤ 12) :=
    monthLength_of_year year month lower upper
  constructor
  · rintro ⟨date, civil⟩
    have found := Date.ofCivil?_eq_some_iff.mpr civil
    simp only [Date.ofCivil?] at found
    split at found
    · rename_i allowed
      rw [sameLength allowed.1 allowed.2.1] at allowed
      exact allowed
    · cases found
  · intro isDate
    refine ⟨⟨monthStart (12 * year + month - 1) + day - 1⟩, Date.ofCivil?_eq_some_iff.mp ?_⟩
    simp only [Date.ofCivil?]
    rw [if_pos]
    rw [sameLength isDate.1 isDate.2.1]
    exact isDate

end TimeRange.Calendar
