/-
This file describes exact decimal numbers and their positional text.
-/

import ImpalaAdapter.Number.Numeral

namespace ImpalaAdapter

/-- The magnitude of a decimal is its coefficient times ten to its exponent. Zero can be negative. -/
structure Decimal where
  negative : Bool := false
  coefficient : Nat
  exponent : Int
deriving DecidableEq

namespace Decimal

/-- This decimal is a whole number of tenths. -/
def ofTenths (tenths : Nat) : Decimal :=
  { coefficient := tenths, exponent := -1 }

/-- This function drops the zeros at the end of a fraction with the given number of digits. -/
def dropTrailingZeros : Nat → Nat → Nat × Nat
  | coefficient, 0 => (coefficient, 0)
  | coefficient, places + 1 =>
      if coefficient % 10 = 0 then dropTrailingZeros (coefficient / 10) places
      else (coefficient, places + 1)

/-- The digits before and after the point have no exponent and no zeros at the end. -/
def magnitudeText (decimal : Decimal) : List Char :=
  if 0 ≤ decimal.exponent then digits (decimal.coefficient * Nat.pow 10 decimal.exponent.toNat)
  else
    let (coefficient, places) := dropTrailingZeros decimal.coefficient (-decimal.exponent).toNat
    if places = 0 then digits coefficient
    else
      let unit := Nat.pow 10 places
      digits (coefficient / unit) ++ '.' :: padded places (coefficient % unit)

def text (decimal : Decimal) : String :=
  String.ofList (if decimal.negative then '-' :: decimal.magnitudeText else decimal.magnitudeText)

end Decimal

end ImpalaAdapter
