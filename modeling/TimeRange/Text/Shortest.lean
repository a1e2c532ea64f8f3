import TimeRange.Text.Binary

/-!
# Shortest decimals

A binary number is written with the fewest decimal digits to which it is the
nearest binary number; of two such decimals the nearer one is taken. A layout
says which numbers are written out and which get a power of ten behind their
digits.
-/

namespace TimeRange.Text

namespace Binary

def isNearestTo (binary : Binary) (decimal : Nat) (exponent : Int) : Bool :=
  decimal != 0 && (Fraction.scaled 10 decimal exponent).toBinary == binary

/--
The decimals with a given power of ten that lie next to a binary number and stand for it, the
nearer one first.
-/
def neighbours (binary : Binary) (exponent : Int) : List Nat :=
  let place := binary.value.div (.scaled 10 1 exponent)
  let nearer := place.round
  let other := if nearer = place.floor then nearer + 1 else place.floor
  [nearer, other].filter fun decimal => binary.isNearestTo decimal exponent

/--
The first decimal that stands for a binary number, with as many digits as asked for or more.
Rounding up to a power of ten gives a digit too many, a zero that is dropped.
-/
def shortestFrom (binary : Binary) (magnitude : Int) : (attempts digits : Nat) → Nat × Int
  | 0, digits =>
      ((binary.value.div (.scaled 10 1 (magnitude - digits))).round, magnitude - digits)
  | attempts + 1, digits =>
      match binary.neighbours (magnitude - digits) with
      | decimal :: _ =>
          if decimal % 10 = 0 then (decimal / 10, magnitude - digits + 1)
          else (decimal, magnitude - digits)
      | [] => shortestFrom binary magnitude attempts (digits + 1)

/-- The shortest decimal, as a natural number and a power of ten. Seventeen digits suffice. -/
def shortest (binary : Binary) : Nat × Int :=
  shortestFrom binary binary.value.magnitude 16 1

end Binary

/--
The numbers that are written out, by the exponents of the powers of ten at
their first digits: the least that is, and the least above it that is not.
-/
structure DecimalLayout where
  plainFrom : Int
  plainBelow : Int
  deriving DecidableEq, Repr

def plain (decimal : Nat) (exponent : Int) : List Char :=
  if 0 ≤ exponent then Decimal.natural (decimal * Nat.pow 10 exponent.toNat) ++ ['.', '0']
  else
    let places := (-exponent).toNat
    let fraction := Decimal.padded places (decimal % Nat.pow 10 places)
    Decimal.natural (decimal / Nat.pow 10 places) ++ '.' :: fraction

def scientific (decimal : Nat) (exponent : Int) : List Char :=
  match Decimal.natural decimal with
  | [] => []
  | first :: rest =>
      let fraction := if rest.isEmpty then [] else '.' :: rest
      first :: fraction ++ 'e' :: Decimal.signed (exponent + rest.length)

def Binary.text (layout : DecimalLayout) (binary : Binary) : List Char :=
  if binary.significand = 0 then ['0', '.', '0']
  else
    let (decimal, exponent) := binary.shortest
    let first := exponent + (Decimal.natural decimal).length - 1
    if layout.plainFrom ≤ first ∧ first < layout.plainBelow then plain decimal exponent
    else scientific decimal exponent

end TimeRange.Text
