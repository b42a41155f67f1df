/-
This file reads the values of TOML that stand without quotes: flags, numbers, dates and times.
-/

import ImpalaAdapter.Temporal.Calendar
import ImpalaAdapter.Text.Search
import ImpalaAdapter.Toml.Quotation
import ImpalaAdapter.Toml.Table

namespace ImpalaAdapter.Toml

/-- A bare value ends before a blank, a comment, a quote or a sign of the structure. -/
def endsBare (character : Char) : Bool :=
  character ∈ [' ', '\t', '\n', '\r', ',', '=', '[', ']', '{', '}', '#', '"', apostrophe]

/-- Single underscores can stand between the digits of a number. -/
def groupedDigits? (isBaseDigit : Char → Bool) (text : List Char) : Option (List Char) :=
  let groups := Text.splitAt (· = '_') text
  if groups.all fun group => !group.isEmpty && group.all isBaseDigit then some groups.flatten
  else none

/-- A whole number has no zeros before its other digits. -/
def wholeDigits? (text : List Char) : Option (List Char) :=
  match text with
  | '0' :: _ :: _ => none
  | _ => groupedDigits? isDigit text

def splitSign (text : List Char) : Bool × List Char :=
  match text with
  | '-' :: rest => (true, rest)
  | '+' :: rest => (false, rest)
  | _ => (false, text)

def numberInBase? (base : Nat) (text : List Char) : Option Int :=
  let inBase := fun character => (hexadecimalValue? character).any (· < base)
  (groupedDigits? inBase text).map fun digits =>
    (valueInBase base (digits.filterMap hexadecimalValue?) : Int)

def wholeNumber? (text : List Char) : Option Int :=
  let (negative, magnitude) := splitSign text
  (wholeDigits? magnitude).map fun digits =>
    if negative then -(numeralValue digits : Int) else numeralValue digits

/-- A number with a base has no sign. -/
def integer? (text : List Char) : Option Int :=
  match text with
  | '0' :: 'x' :: rest => numberInBase? 16 rest
  | '0' :: 'o' :: rest => numberInBase? 8 rest
  | '0' :: 'b' :: rest => numberInBase? 2 rest
  | _ => wholeNumber? text

/-- Integers are kept in 128 bits, with or without a sign. -/
def fitsInteger (number : Int) : Bool :=
  -(Nat.pow 2 127 : Nat) ≤ number && number < (Nat.pow 2 128 : Nat)

def exponent? (text : List Char) : Option Int :=
  let (negative, magnitude) := splitSign text
  (groupedDigits? isDigit magnitude).map fun digits =>
    if negative then -(numeralValue digits : Int) else numeralValue digits

/-- The exponent follows a letter, and the fraction follows a point. One of them is present. -/
def magnitude? (text : List Char) : Option (List Char × List Char × Int) :=
  let (mantissa, exponentText) :=
    match Text.cutAt 'e' (text.map Char.toLower) with
    | some (mantissa, exponentText) => (mantissa, some exponentText)
    | none => (text, none)
  let (wholeText, fractionText) :=
    match Text.cutAt '.' mantissa with
    | some (wholeText, fractionText) => (wholeText, some fractionText)
    | none => (mantissa, none)
  if exponentText.isNone && fractionText.isNone then none
  else do
    let whole ← wholeDigits? wholeText
    let fraction ← (fractionText.map (groupedDigits? isDigit)).getD (some [])
    let exponent ← (exponentText.map exponent?).getD (some 0)
    pure (whole, fraction, exponent)

/-- A number that is too large for a finite one is refused. -/
def float? (text : List Char) : Option Binary64 :=
  let (negative, rest) := splitSign text
  if rest = "inf".toList then some (.infinite negative)
  else if rest = "nan".toList then some .nan
  else do
    let (whole, fraction, exponent) ← magnitude? rest
    let number := Binary64.ofDecimal
      { negative := negative
        coefficient := numeralValue (whole ++ fraction)
        exponent := exponent - fraction.length }
    if number.isFinite then pure number else none

/-- Two digits that are at most the limit. -/
def readPair (limit : Nat) : Reader (List Char)
  | tens :: units :: rest =>
      if isDigit tens ∧ isDigit units ∧ numeralValue [tens, units] ≤ limit then
        some ([tens, units], rest)
      else none
  | _ => none

def dropSign? (sign : Char) (text : List Char) : Option (List Char) :=
  match text with
  | first :: rest => if first = sign then some rest else none
  | [] => none

/-- The day has to exist in its month. -/
def readDate (text : List Char) : Option (List Char × List Char) := do
  let (century, rest) ← readPair 99 text
  let (year, rest) ← readPair 99 rest
  let (month, rest) ← readPair 12 (← dropSign? '-' rest)
  let (day, rest) ← readPair 31 (← dropSign? '-' rest)
  let (monthNumber, dayNumber) := (numeralValue month, numeralValue day)
  if 1 ≤ monthNumber ∧ 1 ≤ dayNumber ∧
      dayNumber ≤ Temporal.daysInMonth (numeralValue (century ++ year)) monthNumber then
    pure (century ++ year ++ '-' :: month ++ '-' :: day, rest)
  else none

/-- Nine digits of a fraction count, and the zeros at their end are dropped. -/
def fractionText (digits : List Char) : List Char :=
  let kept := ((digits.take 9).reverse.dropWhile (· = '0')).reverse
  if kept.isEmpty then [] else '.' :: kept

/-- The fraction of a second follows a point and has at least one digit. -/
def readFraction (text : List Char) : Option (List Char × List Char) :=
  match text with
  | '.' :: rest =>
      let digits := rest.takeWhile isDigit
      if digits.isEmpty then none else some (fractionText digits, rest.dropWhile isDigit)
  | _ => some ([], text)

/-- The seconds of a time can be left out, and they can reach into a leap second. -/
def readTime (text : List Char) : Option (List Char × List Char) := do
  let (hour, rest) ← readPair 23 text
  let (minute, rest) ← readPair 59 (← dropSign? ':' rest)
  match dropSign? ':' rest with
  | none => pure (hour ++ ':' :: minute, rest)
  | some rest =>
      let (second, rest) ← readPair 60 rest
      let (fraction, rest) ← readFraction rest
      pure (hour ++ ':' :: minute ++ ':' :: second ++ fraction, rest)

/-- An offset is the letter Z or hours and minutes with a sign. -/
def readOffset (text : List Char) : Option (List Char × List Char) :=
  match text with
  | [] => some ([], [])
  | sign :: rest =>
      if sign ∈ ['Z', 'z'] then some (['Z'], rest)
      else if sign ∈ ['+', '-'] then do
        let (hour, rest) ← readPair 23 rest
        let (minute, rest) ← readPair 59 (← dropSign? ':' rest)
        pure (sign :: hour ++ ':' :: minute, rest)
      else none

/-- A date, a time, or a date and a time with or without an offset. -/
def dateTime? (text : List Char) : Option (List Char) :=
  match readDate text with
  | none =>
      match readTime text with
      | some (time, []) => some time
      | _ => none
  | some (date, []) => some date
  | some (date, separator :: rest) => do
      if separator ∈ ['T', 't', ' '] then
        let (time, rest) ← readTime rest
        let (offset, rest) ← readOffset rest
        if rest.isEmpty then pure (date ++ 'T' :: time ++ offset) else none
      else none

def bareValue? (text : List Char) : Option Value :=
  if text = "true".toList then some (.boolean true)
  else if text = "false".toList then some (.boolean false)
  else
    match integer? text, float? text, dateTime? text with
    | some number, _, _ => if fitsInteger number then some (.integer number) else none
    | none, some number, _ => some (.float number)
    | none, none, some moment => some (.dateTime (String.ofList moment))
    | none, none, none => none

/-- A space joins a date with the time that follows it. -/
def bareLength (text : List Char) : Nat :=
  let run := text.takeWhile (!endsBare ·)
  match readDate run, text.drop run.length with
  | some (_, []), ' ' :: next :: rest =>
      if isDigit next then run.length + 1 + ((next :: rest).takeWhile (!endsBare ·)).length
      else run.length
  | _, _ => run.length

def readBare : Reader Value := fun text =>
  (bareValue? (text.take (bareLength text))).map fun value => (value, text.drop (bareLength text))

end ImpalaAdapter.Toml
