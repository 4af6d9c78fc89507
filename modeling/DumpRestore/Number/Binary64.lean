/-
This file defines the numbers of the binary format of 64 bits and how an exact number is rounded to
one of them: to the nearest, and to the one with the even significand where two are equally near.
All of it is exact arithmetic on natural numbers.
-/

namespace DumpRestore

/-- A number of the binary format of 64 bits: a significand times a power of two, with a sign, or an
infinity, or the value that is no number. -/
inductive Binary64 where
  | finite (negative : Bool) (significand : Nat) (exponent : Int)
  | infinite (negative : Bool)
  | undefined
deriving Repr, DecidableEq

/-! ### Rounding quotients -/

/-- A number to a power; one where the exponent is negative. A quotient is multiplied by a power
where its numerator is multiplied by that power and its denominator by the opposite one. -/
def wholePower (base : Nat) (exponent : Int) : Nat :=
  Nat.pow base exponent.toNat

/-- The integer nearest to a quotient. A tie goes to the even one. -/
def nearestQuotient (numerator denominator : Nat) : Nat :=
  let quotient := numerator / denominator
  let twice := 2 * (numerator % denominator)
  if twice < denominator || (twice == denominator && quotient % 2 == 0) then quotient
  else quotient + 1

/-- The integer nearest to a quotient divided by a power of `base`. -/
def nearestAt (base numerator denominator : Nat) (exponent : Int) : Nat :=
  nearestQuotient (numerator * wholePower base (-exponent)) (denominator * wholePower base exponent)

/-- The largest power of two that is no greater than a positive quotient, as its exponent. -/
def binaryOrder (numerator denominator : Nat) : Int :=
  let order : Int := Nat.log2 numerator - Nat.log2 denominator
  if denominator * wholePower 2 order ≤ numerator * wholePower 2 (-order) then order else order - 1

namespace Binary64

/-! ### Format -/

/-- The bits of a significand. -/
def precision : Nat := 53

/-- The least exponent of a significand. -/
def leastExponent : Int := -1074

/-- The greatest exponent of a significand. -/
def greatestExponent : Int := 971

/-! ### Nearest numbers -/

/-- The number nearest to a quotient. A quotient beyond the greatest number rounds to infinity. -/
def ofQuotient (negative : Bool) (numerator denominator : Nat) : Binary64 :=
  if numerator = 0 then .finite negative 0 0
  else
    let exponent := max (binaryOrder numerator denominator - (precision - 1)) leastExponent
    let significand := nearestAt 2 numerator denominator exponent
    let isBeyond := greatestExponent < exponent ||
      (exponent == greatestExponent && significand == wholePower 2 precision)
    if isBeyond then .infinite negative else .finite negative significand exponent

/-- The number nearest to an integer; none where it is beyond the greatest number. -/
def ofInt? (value : Int) : Option Binary64 :=
  match ofQuotient (value < 0) value.natAbs 1 with
  | .finite negative significand exponent => some (.finite negative significand exponent)
  | _ => none

/-! ### Properties -/

/-- Whether a number is finite. -/
def isFinite : Binary64 → Bool
  | .finite _ _ _ => true
  | _ => false

/-- The integer between a finite number and zero that is nearest to the number. -/
def truncate? : Binary64 → Option Int
  | .finite negative significand exponent =>
    let size := significand * wholePower 2 exponent / wholePower 2 (-exponent)
    some (if negative then -Int.ofNat size else Int.ofNat size)
  | _ => none

end Binary64

end DumpRestore
