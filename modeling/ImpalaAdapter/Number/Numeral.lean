/-
This file writes and reads decimal numerals.
-/

namespace ImpalaAdapter

def isDigit (character : Char) : Bool :=
  '0' ≤ character && character ≤ '9'

def digits (number : Nat) : List Char :=
  Nat.toDigits 10 number

/-- Zeros fill a short numeral up to the width. -/
def padded (width number : Nat) : List Char :=
  List.replicate (width - (digits number).length) '0' ++ digits number

/-- Only a negative number carries a sign. -/
def signedDigits (number : Int) : List Char :=
  if number < 0 then '-' :: digits number.natAbs else digits number.natAbs

def digitValue (character : Char) : Nat :=
  character.toNat - '0'.toNat

/-- The value of a run of digits in a base, most significant digit first. -/
def valueInBase (base : Nat) (values : List Nat) : Nat :=
  values.foldl (fun value digit => value * base + digit) 0

def numeralValue (numeral : List Char) : Nat :=
  valueInBase 10 (numeral.map digitValue)

/-- A numeral is a nonempty run of digits, and its value is refused above the limit. -/
def readNumeral? (limit : Nat) (text : List Char) : Option Nat :=
  if text.isEmpty || !text.all isDigit then none
  else if numeralValue text ≤ limit then some (numeralValue text) else none

end ImpalaAdapter
