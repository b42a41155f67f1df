/-
This file describes binary floating-point numbers of 64 bits. A decimal is rounded to the nearest
one, and each one has a shortest decimal that is rounded back to it.
-/

import ImpalaAdapter.Number.Decimal

namespace ImpalaAdapter

/-- The magnitude of a finite number is its mantissa times two to its exponent. -/
inductive Binary64 where
  | nan
  | infinite (negative : Bool)
  | finite (negative : Bool) (mantissa : Nat) (exponent : Int)
deriving DecidableEq

namespace Binary64

/-- The quotient is rounded to the nearest whole number, and a half goes to the even one. -/
def roundedQuotient (numerator denominator : Nat) : Nat :=
  let quotient := numerator / denominator
  let twice := 2 * (numerator % denominator)
  if twice < denominator ∨ (twice = denominator ∧ quotient % 2 = 0) then quotient else quotient + 1

/-- The fraction of a power of two and a positive fraction, as a numerator and a denominator. -/
def scaledFraction (numerator denominator : Nat) (exponent : Int) : Nat × Nat :=
  if 0 ≤ exponent then (numerator, denominator * Nat.pow 2 exponent.toNat)
  else (numerator * Nat.pow 2 (-exponent).toNat, denominator)

/-- The exponent leaves 53 bits for the mantissa, or fewer below the least normal number. -/
def roundingExponent (numerator denominator : Nat) : Int :=
  let estimate : Int := (numerator.log2 : Int) - denominator.log2 - 52
  let (scaled, unit) := scaledFraction numerator denominator estimate
  max (if scaled / unit < Nat.pow 2 52 then estimate - 1 else estimate) (-1074)

/-- A positive fraction is rounded once. It becomes infinite from the middle of the last step on. -/
def ofFraction (negative : Bool) (numerator denominator : Nat) : Binary64 :=
  let exponent := roundingExponent numerator denominator
  let (scaled, unit) := scaledFraction numerator denominator exponent
  let mantissa := roundedQuotient scaled unit
  let (mantissa, exponent) :=
    if mantissa = Nat.pow 2 53 then (Nat.pow 2 52, exponent + 1) else (mantissa, exponent)
  if 971 < exponent then .infinite negative else .finite negative mantissa exponent

/-- A decimal far outside the range of the finite numbers is decided by its length alone. -/
def ofDecimal (decimal : Decimal) : Binary64 :=
  let magnitude : Int := (digits decimal.coefficient).length + decimal.exponent
  if decimal.coefficient = 0 ∨ magnitude < -330 then .finite decimal.negative 0 (-1074)
  else if 310 < magnitude then .infinite decimal.negative
  else if 0 ≤ decimal.exponent then
    ofFraction decimal.negative (decimal.coefficient * Nat.pow 10 decimal.exponent.toNat) 1
  else ofFraction decimal.negative decimal.coefficient (Nat.pow 10 (-decimal.exponent).toNat)

/-- The whole part of the magnitude. -/
def wholePart (mantissa : Nat) (exponent : Int) : Nat :=
  if 0 ≤ exponent then mantissa * Nat.pow 2 exponent.toNat
  else mantissa / Nat.pow 2 (-exponent).toNat

/-- Whole numbers are kept in 64 bits with a sign. -/
def leastWhole : Int := -9223372036854775808

def greatestWhole : Int := 9223372036854775807

/-- The fraction is dropped, and a number outside the 64-bit range goes to its nearer end.
A value that is no number gives zero. -/
def toWhole : Binary64 → Int
  | .nan => 0
  | .infinite negative => if negative then leastWhole else greatestWhole
  | .finite negative mantissa exponent =>
      let whole : Int := wholePart mantissa exponent
      if negative then max (-whole) leastWhole else min whole greatestWhole

def isFinite : Binary64 → Bool
  | .finite .. => true
  | _ => false

end Binary64

end ImpalaAdapter
