/-
This file finds the decimal with the fewest digits that is rounded to a given binary number.
-/

import ImpalaAdapter.Number.Binary64

namespace ImpalaAdapter.Binary64

/-- The exponent of the leading decimal digit of a positive fraction. -/
def leadingExponent (numerator denominator : Nat) : Int :=
  let estimate : Int := ((digits numerator).length : Int) - (digits denominator).length
  let reached :=
    if 0 ≤ estimate then denominator * Nat.pow 10 estimate.toNat ≤ numerator
    else denominator ≤ numerator * Nat.pow 10 (-estimate).toNat
  if reached then estimate else estimate - 1

/-- The two decimals with the given exponent that enclose the fraction are tried. Of two that are
rounded back, the nearer one is taken, and of two equally near ones the even one. -/
def nearestOnGrid? (negative : Bool) (numerator denominator : Nat) (exponent : Int) :
    Option Decimal :=
  let (scaled, unit) :=
    if 0 ≤ exponent then (numerator, denominator * Nat.pow 10 exponent.toNat)
    else (numerator * Nat.pow 10 (-exponent).toNat, denominator)
  let target := ofFraction negative numerator denominator
  let lower : Decimal := ⟨negative, scaled / unit, exponent⟩
  let upper : Decimal := ⟨negative, scaled / unit + 1, exponent⟩
  let nearest : Decimal := ⟨negative, roundedQuotient scaled unit, exponent⟩
  if ofDecimal lower = target ∧ ofDecimal upper = target then some nearest
  else if ofDecimal lower = target then some lower
  else if ofDecimal upper = target then some upper
  else none

/-- Seventeen digits are always enough, so the search ends with a decimal. -/
def shortestDigits (negative : Bool) (numerator denominator : Nat) : Decimal :=
  let leading := leadingExponent numerator denominator
  ((List.range 17).findSome? fun (count : Nat) =>
    nearestOnGrid? negative numerator denominator (leading - count)).getD ⟨negative, 0, 0⟩

/-- Only a finite number has a decimal. -/
def shortest? : Binary64 → Option Decimal
  | .nan => none
  | .infinite _ => none
  | .finite negative 0 _ => some ⟨negative, 0, 0⟩
  | .finite negative mantissa exponent =>
      some (if 0 ≤ exponent then shortestDigits negative (mantissa * Nat.pow 2 exponent.toNat) 1
        else shortestDigits negative mantissa (Nat.pow 2 (-exponent).toNat))

end ImpalaAdapter.Binary64
