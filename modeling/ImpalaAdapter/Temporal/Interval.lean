/-
This file describes the intervals that are added to moments.
-/

import ImpalaAdapter.Number.Binary64
import ImpalaAdapter.Text.Blank
import ImpalaAdapter.Text.Escaped
import ImpalaAdapter.Text.LetterCase

namespace ImpalaAdapter.Temporal

inductive IntervalUnit where
  | second
  | minute
  | hour
  | day
  | week
  | month
  | quarter
  | year
deriving DecidableEq

namespace IntervalUnit

def all : List IntervalUnit :=
  [.second, .minute, .hour, .day, .week, .month, .quarter, .year]

def keyword : IntervalUnit → String
  | .second => "second"
  | .minute => "minute"
  | .hour => "hour"
  | .day => "day"
  | .week => "week"
  | .month => "month"
  | .quarter => "quarter"
  | .year => "year"

def ofKeyword? (keyword : String) : Option IntervalUnit :=
  all.find? fun unit => unit.keyword == keyword

/-- At most one plural ending is dropped. -/
def singular (word : List Char) : List Char :=
  if word.getLast? = some 's' then word.dropLast else word

/-- The unit that a user writes can be plural, in any case and with blanks around it. -/
def ofText? (text : String) : Option IntervalUnit :=
  ofKeyword? (String.ofList (singular (Text.lowercase (Text.trim text.toList))))

/-- The message for a text that names no unit. -/
def unknownMessage (text : String) : String :=
  "unsupported interval unit: " ++ Text.escaped text

end IntervalUnit

/-- Only the whole part of an amount enters the SQL of an interval. -/
def wholeAmount (amount : Binary64) : String :=
  String.ofList (signedDigits amount.toWhole)

/-- An interval with a bare number and a lower-case unit. -/
def bareInterval (amount : Binary64) (unit : IntervalUnit) : String :=
  "INTERVAL " ++ wholeAmount amount ++ " " ++ unit.keyword

/-- An interval with a quoted number and an upper-case unit. -/
def quotedInterval (amount : Binary64) (unit : IntervalUnit) : String :=
  "INTERVAL '" ++ wholeAmount amount ++ "' " ++
    String.ofList (Text.uppercase unit.keyword.toList)

end ImpalaAdapter.Temporal
