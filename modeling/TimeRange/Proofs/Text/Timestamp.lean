import TimeRange.Text.Timestamp

/-!
# Timestamps read back

Each reader undoes the writer of its part, in front of whatever may follow
that part, and returns what follows. What may follow is said of its first
character: a number ends before a character that is no digit, and a time of
day without a fraction also before one that is no point.

The main statement is `read?_ofInstant`.
-/

namespace TimeRange.Text.Timestamp

open Calendar

/-! ## Numbers -/

def NoDigitFirst (text : List Char) : Prop :=
  ∀ character ∈ text.head?, character.isDigit = false

theorem NoDigitFirst.cons {mark : Char} (other : mark.isDigit = false) (rest : List Char) :
    NoDigitFirst (mark :: rest) := by
  intro character member
  cases member
  exact other

theorem readDigits?_append {least most : Nat} {digits rest : List Char}
    (numeral : ∀ digit ∈ digits, digit.isDigit = true) (enough : least ≤ digits.length)
    (fits : digits.length ≤ most) (ends : NoDigitFirst rest) :
    readDigits? least most (digits ++ rest) = some (Decimal.value digits, rest) := by
  unfold readDigits?
  rw [Decimal.takeWhile_isDigit numeral ends, List.take_of_length_le fits]
  dsimp only
  rw [if_pos enough, List.drop_left]

theorem readDigits?_padded {width number : Nat} (positive : 0 < width)
    (fits : number < Nat.pow 10 width) {rest : List Char} (ends : NoDigitFirst rest) :
    readDigits? 1 width (Decimal.padded width number ++ rest) = some (number, rest) := by
  have size := Decimal.length_padded_of_lt width positive fits
  rw [readDigits?_append (fun _ => Decimal.isDigit_of_mem_padded) (by omega) (by omega) ends,
    Decimal.value_padded]

theorem readMark?_cons {marks : List Char} {mark : Char} (listed : mark ∈ marks) (rest : List Char) :
    readMark? marks (mark :: rest) = some rest :=
  if_pos listed

/-! ## Dates -/

/-- A text that begins with a digit has no sign before its year. -/
theorem readYear?_of_isDigit {text : List Char}
    (numeral : ∀ character ∈ text.head?, character.isDigit = true) :
    readYear? text = (readDigits? 1 4 text).map fun found => ((found.1 : Int), found.2) := by
  unfold readYear?
  split
  · exact absurd (numeral '-' rfl) (by decide)
  · exact absurd (numeral '+' rfl) (by decide)
  · cases readDigits? 1 4 text <;> rfl

/-- After a sign a year is read however many digits it has, so that it need not be bounded. -/
theorem readDigits?_signed (number : Nat) {rest : List Char} (ends : NoDigitFirst rest) :
    readDigits? 1 (Decimal.padded 4 number ++ rest).length (Decimal.padded 4 number ++ rest)
      = some (number, rest) := by
  have size := Decimal.length_padded 4 number
  rw [readDigits?_append (fun _ => Decimal.isDigit_of_mem_padded) (by omega)
    (by rw [List.length_append]; exact Nat.le_add_right _ _) ends, Decimal.value_padded]

theorem readYear?_yearText (year : Int) {rest : List Char} (ends : NoDigitFirst rest) :
    readYear? (yearText year ++ rest) = some (year, rest) := by
  unfold yearText
  split
  · rename_i four
    have fits : year.toNat < 10000 := by omega
    have proper : Decimal.padded 4 year.toNat ≠ [] :=
      List.ne_nil_of_length_pos (by rw [Decimal.length_padded_of_lt 4 (by decide) fits]; decide)
    rw [readYear?_of_isDigit, readDigits?_padded (by decide) fits ends, Option.map_some,
      Int.toNat_of_nonneg four.1]
    intro character member
    rw [List.head?_append, List.head?_eq_some_head proper, Option.some_or] at member
    cases member
    exact Decimal.isDigit_of_mem_padded (List.head_mem proper)
  · split
    · rename_i negative
      rw [List.cons_append, readYear?, readDigits?_signed _ ends]
      show some (-(year.natAbs : Int), rest) = some (year, rest)
      rw [Int.ofNat_natAbs_of_nonpos (Int.le_of_lt negative), Int.neg_neg]
    · rename_i positive
      rw [List.cons_append, readYear?, readDigits?_signed _ ends]
      show some ((year.natAbs : Int), rest) = some (year, rest)
      rw [Int.natAbs_of_nonneg (Int.not_lt.mp positive)]

theorem readDate?_dateText (date : Date) {rest : List Char} (ends : NoDigitFirst rest) :
    readDate? (dateText date ++ rest) = some (date, rest) := by
  have monthBounds := date.month_bounds
  have dayBounds := date.dayOfMonth_bounds
  have dash (later : List Char) : NoDigitFirst ('-' :: later) := .cons (by decide) later
  have existing : Date.ofCivil? date.year date.month.toNat date.dayOfMonth.toNat = some date := by
    rw [Int.toNat_of_nonneg (by omega), Int.toNat_of_nonneg (by omega)]
    exact date.ofCivil?_civil
  unfold readDate? dateText
  simp only [List.append_assoc, List.cons_append, readYear?_yearText _ (dash _),
    readMark?_cons List.mem_cons_self, readDigits?_padded (by decide : 0 < 2)
      (show date.month.toNat < 100 by omega) (dash _),
    readDigits?_padded (by decide : 0 < 2) (show date.dayOfMonth.toNat < 100 by omega) ends,
    existing, Option.bind_eq_bind, Option.bind_some]
  rfl

/-! ## Times of day -/

theorem readFraction?_padded {width number nanoseconds : Nat} (positive : 0 < width)
    (short : width ≤ 9) (fits : number < Nat.pow 10 width)
    (scaled : number * Nat.pow 10 (9 - width) = nanoseconds) {rest : List Char}
    (ends : NoDigitFirst rest) :
    readFraction? ('.' :: Decimal.padded width number ++ rest) = some (nanoseconds, rest) := by
  have size := Decimal.length_padded_of_lt width positive fits
  have proper : (Decimal.padded width number).isEmpty = false := by
    rw [List.isEmpty_eq_false_iff]
    exact List.ne_nil_of_length_pos (by omega)
  rw [List.cons_append, readFraction?,
    Decimal.takeWhile_isDigit (fun _ => Decimal.isDigit_of_mem_padded) ends]
  dsimp only
  rw [if_neg (by rw [proper]; exact Bool.false_ne_true), List.take_of_length_le (by omega),
    Decimal.value_append_zeros, Decimal.value_padded, List.drop_left, size, scaled]

/-- The fraction is read back from however many groups of digits it was written in. -/
theorem readFraction?_fractionText {nanoseconds : Nat} (fits : nanoseconds < 1000000000)
    {rest : List Char} (ends : NoDigitFirst rest) (noPoint : rest.head? ≠ some '.') :
    readFraction? (fractionText nanoseconds ++ rest) = some (nanoseconds, rest) := by
  unfold fractionText
  split
  · rename_i whole
    rw [whole, List.nil_append, readFraction?]
    intro later same
    exact noPoint (by rw [same]; rfl)
  · split
    · have few : nanoseconds / 1000000 < 1000 := by omega
      have scaled : nanoseconds / 1000000 * 1000000 = nanoseconds := by omega
      exact readFraction?_padded (by decide) (by decide) few scaled ends
    · split
      · have few : nanoseconds / 1000 < 1000000 := by omega
        have scaled : nanoseconds / 1000 * 1000 = nanoseconds := by omega
        exact readFraction?_padded (by decide) (by decide) few scaled ends
      · exact readFraction?_padded (by decide) (by decide) fits (Nat.mul_one _) ends

theorem noDigitFirst_fractionText (nanoseconds : Nat) {rest : List Char} (ends : NoDigitFirst rest) :
    NoDigitFirst (fractionText nanoseconds ++ rest) := by
  unfold fractionText
  split
  · exact ends
  · split
    · exact .cons (by decide) _
    · split <;> exact .cons (by decide) _

theorem readTime?_timeText {timeOfDay : Nat} (fits : timeOfDay < 86400000000000)
    {rest : List Char} (ends : NoDigitFirst rest) (noPoint : rest.head? ≠ some '.') :
    readTime? (timeText timeOfDay ++ rest) = some (timeOfDay, rest) := by
  have colon (later : List Char) : NoDigitFirst (':' :: later) := .cons (by decide) later
  unfold readTime? timeText
  simp only [List.append_assoc, List.cons_append, readMark?_cons List.mem_cons_self,
    readDigits?_padded (by decide : 0 < 2)
      (show timeOfDay / 1000000000 / 3600 < 100 by omega) (colon _),
    readDigits?_padded (by decide : 0 < 2)
      (show timeOfDay / 1000000000 / 60 % 60 < 100 by omega) (colon _),
    readDigits?_padded (by decide : 0 < 2) (show timeOfDay / 1000000000 % 60 < 100 by omega)
      (noDigitFirst_fractionText _ ends),
    readFraction?_fractionText (Nat.mod_lt timeOfDay (by decide)) ends noPoint,
    Option.bind_eq_bind, Option.bind_some]
  rw [if_pos (by omega)]
  congr 2
  omega

/-! ## Instants -/

/-- An instant is read back from its timestamp, in every year of the calendar and to the nanosecond. -/
theorem read?_ofInstant (instant : Instant) : read? (ofInstant instant) = some instant := by
  have positive : 0 < dayLength := by decide
  have fromMidnight := Int.emod_nonneg instant.nanoseconds (Int.ne_of_gt positive)
  have inDay : (instant.nanoseconds % dayLength).toNat < 86400000000000 := by
    have bound := Int.emod_lt_of_pos instant.nanoseconds positive
    rw [show dayLength = 86400000000000 from rfl] at bound fromMidnight ⊢
    omega
  have rejoined : instant.nanoseconds / dayLength * dayLength
      + ((instant.nanoseconds % dayLength).toNat : Int) = instant.nanoseconds := by
    rw [Int.toNat_of_nonneg fromMidnight]
    exact Int.ediv_mul_add_emod _ _
  -- the clocks of Universal Time show the count of the instant itself, which the calendar covers
  have wall : WallTime.ofNanoseconds? instant.nanoseconds
      = some ⟨instant.nanoseconds, instant.inCalendar⟩ :=
    WallTime.ofNanoseconds?_eq_some_iff.mpr rfl
  have universal : readOffset? (dropBlanks ['Z']) = some (0, []) := by decide
  have blankless : (dropBlanks []).isEmpty = true := rfl
  unfold read? ofInstant wallText
  simp only [List.append_assoc, List.cons_append,
    readDate?_dateText _ (.cons (by decide : 'T'.isDigit = false) _),
    readMark?_cons List.mem_cons_self,
    readTime?_timeText inDay (.cons (by decide : 'Z'.isDigit = false) []) (by decide),
    universal, blankless, if_true, rejoined, wall, Option.bind_eq_bind, Option.bind_some,
    Int.zero_mul, Int.sub_zero, Instant.ofNanoseconds?_nanoseconds]

example : String.ofList (ofInstant .last) = "+262142-12-31T23:59:59.999999999Z" := by
  decide +kernel

end TimeRange.Text.Timestamp
