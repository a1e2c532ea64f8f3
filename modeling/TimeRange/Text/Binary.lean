import TimeRange.Text.Decimal

/-!
# Binary numbers

A number that is not an integer is held in binary, with 53 significant bits
and no bit below the power of two with exponent -1074. Rounding to such a
number is exact arithmetic on fractions of natural numbers, and a half goes to
the even neighbour.

`Fraction.toBinary` rounds once. `Binary.ofDecimal` reads a decimal in two
steps, each of which rounds: its digits first, its power of ten afterwards. For
a decimal of more than fifteen digits the last bit can differ from rounding once.
-/

namespace TimeRange.Text

/-- A binary number: a significand times a power of two. -/
structure Binary where
  significand : Nat
  exponent : Int
  deriving DecidableEq, Repr

structure Fraction where
  numerator : Nat
  denominator : Nat
  deriving DecidableEq, Repr

namespace Fraction

def scaled (base number : Nat) (exponent : Int) : Fraction :=
  if 0 ≤ exponent then ⟨number * Nat.pow base exponent.toNat, 1⟩
  else ⟨number, Nat.pow base (-exponent).toNat⟩

def mul (left right : Fraction) : Fraction :=
  ⟨left.numerator * right.numerator, left.denominator * right.denominator⟩

def div (left right : Fraction) : Fraction :=
  ⟨left.numerator * right.denominator, left.denominator * right.numerator⟩

def floor (fraction : Fraction) : Nat :=
  fraction.numerator / fraction.denominator

/-- The nearest natural number; a half goes to the even neighbour. -/
def round (fraction : Fraction) : Nat :=
  let whole := fraction.floor
  let twice := 2 * (fraction.numerator % fraction.denominator)
  if twice < fraction.denominator then whole
  else if fraction.denominator < twice then whole + 1
  else whole + whole % 2

def lt (left right : Fraction) : Bool :=
  left.numerator * right.denominator < right.numerator * left.denominator

def binaryLog (fraction : Fraction) : Int :=
  let estimate : Int := (Nat.log2 fraction.numerator : Int) - Nat.log2 fraction.denominator
  if fraction.lt (scaled 2 1 estimate) then estimate - 1 else estimate

/-- The number of digits before the point; for a fraction below one, less the zeros after it. -/
def magnitude (fraction : Fraction) : Int :=
  if fraction.denominator ≤ fraction.numerator then (Decimal.natural fraction.floor).length
  else 1 - ((Decimal.natural (fraction.denominator / fraction.numerator)).length : Int)

def toBinary (fraction : Fraction) : Binary :=
  let exponent := max (fraction.binaryLog - 52) (-1074)
  let significand := (fraction.div (scaled 2 1 exponent)).round
  if significand = Nat.pow 2 53 then ⟨Nat.pow 2 52, exponent + 1⟩ else ⟨significand, exponent⟩

end Fraction

namespace Binary

def value (binary : Binary) : Fraction :=
  .scaled 2 binary.significand binary.exponent

def powerOfTen (exponent : Nat) : Binary :=
  (Fraction.scaled 10 1 exponent).toBinary

def mul (left right : Binary) : Binary :=
  (left.value.mul right.value).toBinary

def div (left right : Binary) : Binary :=
  (left.value.div right.value).toBinary

/--
A binary number times a power of ten. The power is the nearest binary number;
one below `10 ^ (-308)` is reached by several divisions, since the greatest power
of ten that binary numbers can hold is `10 ^ 308`.
-/
def scale (binary : Binary) (exponent : Int) : Binary :=
  if 0 ≤ exponent then binary.mul (powerOfTen exponent.toNat)
  else if binary.significand = 0 then binary
  else if -308 ≤ exponent then binary.div (powerOfTen (-exponent).toNat)
  else scale (binary.div (powerOfTen 308)) (exponent + 308)
  termination_by (-exponent).toNat
  decreasing_by omega

/--
The digits that a decimal begins with, as many as 64 bits can hold, with the
power of ten that makes up for the digits after them.
-/
def leading (number : Nat) (exponent : Int) : Nat × Int :=
  if number ≤ 18446744073709551615 then (number, exponent)
  else leading (number / 10) (exponent + 1)
  termination_by number
  decreasing_by omega

def ofDecimal (number : Nat) (exponent : Int) : Binary :=
  let (number, exponent) := leading number exponent
  (Fraction.scaled 10 number 0).toBinary.scale exponent

end Binary

end TimeRange.Text
