/-
This file describes the granularities at which moments are grouped.
-/

import ImpalaAdapter.Text.Blank
import ImpalaAdapter.Text.LetterCase

namespace ImpalaAdapter.Temporal

/-- A granularity cuts a moment to the start of a period or takes one part out of it. -/
inductive Granularity where
  | minute
  | minuteOfHour
  | hour
  | hourOfDay
  | day
  | dayOfWeek
  | dayOfMonth
  | dayOfYear
  | week
  | weekOfYear
  | month
  | monthOfYear
  | quarter
  | quarterOfYear
  | year
  | default
deriving DecidableEq

namespace Granularity

def all : List Granularity :=
  [.minute, .minuteOfHour, .hour, .hourOfDay, .day, .dayOfWeek, .dayOfMonth, .dayOfYear,
    .week, .weekOfYear, .month, .monthOfYear, .quarter, .quarterOfYear, .year, .default]

def name : Granularity → String
  | .minute => "minute"
  | .minuteOfHour => "minute-of-hour"
  | .hour => "hour"
  | .hourOfDay => "hour-of-day"
  | .day => "day"
  | .dayOfWeek => "day-of-week"
  | .dayOfMonth => "day-of-month"
  | .dayOfYear => "day-of-year"
  | .week => "week"
  | .weekOfYear => "week-of-year"
  | .month => "month"
  | .monthOfYear => "month-of-year"
  | .quarter => "quarter"
  | .quarterOfYear => "quarter-of-year"
  | .year => "year"
  | .default => "default"

/-- An exact name has no blanks around it and no upper-case letters. -/
def ofName? (name : String) : Option Granularity :=
  all.find? fun granularity => granularity.name == name

/-- An underscore stands for a hyphen in a name that a user writes. -/
def normalized (text : String) : String :=
  String.ofList ((Text.lowercase (Text.trim text.toList)).map fun character =>
    if character = '_' then '-' else character)

/-- The name that a user writes can be in any case and can have blanks around it. -/
def ofText? (text : String) : Option Granularity :=
  ofName? (normalized text)

/-- The message for a text that names no granularity. -/
def unknownMessage (text : String) : String :=
  "unknown granularity unit: " ++ text

end Granularity

end ImpalaAdapter.Temporal
