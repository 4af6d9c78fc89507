/-
This file writes numbers with six significant digits. Very large and very small numbers are written
with an exponent, all others without one; zeros at the end of a fraction are left out.
-/

import DumpRestore.Number.Binary64
import DumpRestore.Text.Basic

namespace DumpRestore.Binary64

/-- The number of significant digits that are written. -/
def shownDigits : Nat := 6

/-- The least power of ten of a number that is written without an exponent. -/
def leastPlainOrder : Int := -4

/-- The largest power of ten that is no greater than a positive quotient, as its exponent. -/
def decimalOrder (numerator denominator : Nat) : Int :=
  if denominator ≤ numerator then (Nat.toDigits 10 (numerator / denominator)).length - 1
  else -(Nat.toDigits 10 ((denominator - 1) / numerator)).length

/-- The significant digits of a positive quotient, and the power of ten of the first of them. -/
def significantDigits (numerator denominator : Nat) : Text × Int :=
  let order := decimalOrder numerator denominator
  let digits := nearestAt 10 numerator denominator (order - (shownDigits - 1))
  if digits == wholePower 10 shownDigits then (Text.ofNat (digits / 10), order + 1)
  else (Text.ofNat digits, order)

/-- Digits without the zeros at their end. -/
def dropTrailingZeros (digits : Text) : Text :=
  (digits.reverse.dropWhile (· == '0')).reverse

/-- Digits behind a point, or nothing where there are none but zeros. -/
def fractionText (digits : Text) : Text :=
  let shown := dropTrailingZeros digits
  if shown.isEmpty then [] else '.' :: shown

/-- An exponent: its sign and at least two digits. -/
def exponentText (order : Int) : Text :=
  let digits := Text.ofNat order.natAbs
  'e' :: (if order < 0 then '-' else '+') ::
    (List.replicate (2 - digits.length) '0' ++ digits)

/-- Significant digits written as a number whose first digit stands for a power of ten. -/
def placeDigits (digits : Text) (order : Int) : Text :=
  if order < leastPlainOrder || shownDigits ≤ order then
    digits.take 1 ++ fractionText (digits.drop 1) ++ exponentText order
  else if order < 0 then
    '0' :: fractionText (List.replicate ((-order).toNat - 1) '0' ++ digits)
  else digits.take (order.toNat + 1) ++ fractionText (digits.drop (order.toNat + 1))

/-- A number with six significant digits. -/
def general : Binary64 → Text
  | .undefined => "nan"
  | .infinite negative => if negative then "-inf" else "inf"
  | .finite negative significand exponent =>
    let size : Text := if significand = 0 then "0"
      else
        let (digits, order) := significantDigits
          (significand * wholePower 2 exponent) (wholePower 2 (-exponent))
        placeDigits digits order
    if negative then '-' :: size else size

end DumpRestore.Binary64
