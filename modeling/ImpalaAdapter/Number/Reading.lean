/-
This file reads binary numbers from decimal texts.
-/

import ImpalaAdapter.Number.Binary64
import ImpalaAdapter.Text.Search

namespace ImpalaAdapter.Binary64

/-- A sign can stand before a number. -/
def dropSign (text : List Char) : Bool × List Char :=
  match text with
  | '-' :: rest => (true, rest)
  | '+' :: rest => (false, rest)
  | _ => (false, text)

/-- An exponent has at least one digit. -/
def readExponent? (text : List Char) : Option Int :=
  let (negative, numeral) := dropSign text
  if numeral.isEmpty || !numeral.all isDigit then none
  else some (if negative then -(numeralValue numeral : Int) else numeralValue numeral)

/-- At least one digit stands before or after the point. -/
def readMantissa? (text : List Char) : Option (List Char × List Char) :=
  let (whole, fraction) := (Text.cutAt '.' text).getD (text, [])
  if (whole ++ fraction).isEmpty || !(whole ++ fraction).all isDigit then none
  else some (whole, fraction)

def readDecimal? (negative : Bool) (text : List Char) : Option Decimal := do
  let (mantissa, exponentText) :=
    match Text.cutAt 'e' text with
    | some (mantissa, exponentText) => (mantissa, some exponentText)
    | none => (text, none)
  let (whole, fraction) ← readMantissa? mantissa
  let exponent ← (exponentText.map readExponent?).getD (some 0)
  pure
    { negative := negative
      coefficient := numeralValue (whole ++ fraction)
      exponent := exponent - fraction.length }

/-- The letters of a number can be in any case. -/
def ofText? (text : String) : Option Binary64 :=
  let (negative, magnitude) := dropSign (text.toList.map Char.toLower)
  if magnitude = "nan".toList then some .nan
  else if magnitude = "inf".toList ∨ magnitude = "infinity".toList then some (.infinite negative)
  else (readDecimal? negative magnitude).map ofDecimal

end ImpalaAdapter.Binary64
