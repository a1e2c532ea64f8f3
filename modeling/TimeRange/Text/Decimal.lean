/-!
# Decimal numerals

Numbers are written with ASCII digits and no leading zeros, or padded with
zeros to a least width. The value of a run of digits is read with
`Nat.ofDigitChars`, which undoes both.
-/

namespace TimeRange.Text.Decimal

def natural (value : Nat) : List Char :=
  Nat.toDigits 10 value

def padded (width value : Nat) : List Char :=
  List.replicate (width - (natural value).length) '0' ++ natural value

def integer (value : Int) : List Char :=
  if value < 0 then '-' :: natural value.natAbs else natural value.natAbs

/-- An integer with its sign, which is a plus sign for zero. -/
def signed (value : Int) : List Char :=
  (if value < 0 then '-' else '+') :: natural value.natAbs

def value (digits : List Char) : Nat :=
  Nat.ofDigitChars 10 digits 0

theorem value_natural (number : Nat) : value (natural number) = number :=
  Nat.ofDigitChars_toDigits (by decide) (by decide)

theorem isDigit_of_mem_natural {number : Nat} {digit : Char} (member : digit ∈ natural number) :
    digit.isDigit = true :=
  Nat.isDigit_of_mem_toDigits (by decide) (by decide) member

theorem natural_ne_nil (number : Nat) : natural number ≠ [] := by
  intro empty
  have positive := Nat.length_toDigits_pos (b := 10) (n := number)
  rw [show Nat.toDigits 10 number = [] from empty] at positive
  exact absurd positive (Nat.lt_irrefl _)

theorem length_padded (width number : Nat) :
    (padded width number).length = max width (natural number).length := by
  unfold padded
  rw [List.length_append, List.length_replicate]
  omega

theorem length_padded_of_lt (width : Nat) (positive : 0 < width) {number : Nat}
    (fits : number < Nat.pow 10 width) : (padded width number).length = width := by
  rw [length_padded]
  exact Nat.max_eq_left ((Nat.length_toDigits_le_iff (by decide) positive).mpr fits)

theorem value_padded (width number : Nat) : value (padded width number) = number := by
  unfold padded value
  rw [Nat.ofDigitChars_append, Nat.ofDigitChars_replicate_zero, Nat.mul_zero]
  exact value_natural number

theorem value_append_zeros (digits : List Char) (count : Nat) :
    value (digits ++ List.replicate count '0') = value digits * Nat.pow 10 count := by
  unfold value
  rw [Nat.ofDigitChars_append, Nat.ofDigitChars_replicate_zero, Nat.mul_comm]
  rfl

theorem isDigit_of_mem_padded {width number : Nat} {digit : Char}
    (member : digit ∈ padded width number) : digit.isDigit = true := by
  rcases List.mem_append.mp member with zero | proper
  · rw [(List.mem_replicate.mp zero).2]
    rfl
  · exact isDigit_of_mem_natural proper

/-! ## Digits before a rest -/

theorem takeWhile_isDigit {digits rest : List Char}
    (numeral : ∀ digit ∈ digits, digit.isDigit = true)
    (ends : ∀ character ∈ rest.head?, character.isDigit = false) :
    (digits ++ rest).takeWhile Char.isDigit = digits := by
  rw [List.takeWhile_append_of_pos numeral]
  cases rest with
  | nil => exact List.append_nil digits
  | cons first rest =>
      rw [List.takeWhile_cons_of_neg (by rw [ends first rfl]; exact Bool.false_ne_true)]
      exact List.append_nil digits

theorem dropWhile_isDigit {digits rest : List Char}
    (numeral : ∀ digit ∈ digits, digit.isDigit = true)
    (ends : ∀ character ∈ rest.head?, character.isDigit = false) :
    (digits ++ rest).dropWhile Char.isDigit = rest := by
  have rejoined := List.takeWhile_append_dropWhile (p := Char.isDigit) (l := digits ++ rest)
  rw [takeWhile_isDigit numeral ends] at rejoined
  exact List.append_cancel_left rejoined

end TimeRange.Text.Decimal
