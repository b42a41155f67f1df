/-
This file describes the dialects and the SQL that each one gives to literals, granularities and
intervals.
-/

import ImpalaAdapter.Sql.Expression
import ImpalaAdapter.Temporal.Granularity
import ImpalaAdapter.Temporal.Interval

namespace ImpalaAdapter.Sql

open Temporal

/-- The profile states the facts about a dialect, and the flavor decides its SQL. -/
structure Dialect where
  profile : Profile
  flavor : Flavor := .generic
deriving DecidableEq

namespace Flavor

/-- Generic SQL has functions that cut and extract, and a cast for the default granularity. -/
def genericTruncation (granularity : Granularity) (operand : Expression) : Expression :=
  let cut := fun (period : String) => Expression.call "DATE_TRUNC" [.string period, operand]
  match granularity with
  | .minute => cut "minute"
  | .minuteOfHour => .extract .minute operand
  | .hour => cut "hour"
  | .hourOfDay => .extract .hour operand
  | .day => cut "day"
  | .dayOfWeek => .extract .dayOfWeek operand
  | .dayOfMonth => .extract .day operand
  | .dayOfYear => .extract .dayOfYear operand
  | .week => cut "week"
  | .weekOfYear => .extract .week operand
  | .month => cut "month"
  | .monthOfYear => .extract .month operand
  | .quarter => cut "quarter"
  | .quarterOfYear => .extract .quarter operand
  | .year => cut "year"
  | .default => .castToTimestamp operand

/-- Impala cuts to the start of a week with the format `day`, and counts quarters from months. -/
def impalaTruncation (granularity : Granularity) (operand : Expression) : Expression :=
  let cut := fun (format : String) => Expression.call "trunc" [operand, .string format]
  let extract := fun (part : DatePart) => Expression.call "extract" [operand, .string part.unitName]
  match granularity with
  | .minute => cut "MI"
  | .minuteOfHour => extract .minute
  | .hour => cut "HH"
  | .hourOfDay => extract .hour
  | .day => cut "dd"
  | .dayOfWeek => .call "dayofweek" [operand]
  | .dayOfMonth => .call "dayofmonth" [operand]
  | .dayOfYear => .call "dayofyear" [operand]
  | .week => cut "day"
  | .weekOfYear => .call "weekofyear" [operand]
  | .month => cut "month"
  | .monthOfYear => extract .month
  | .quarter => cut "Q"
  | .quarterOfYear =>
      .binary (.parenthesized (.binary (extract .month) .plus (.integer 2)))
        .integerDivision (.integer 3)
  | .year => extract .year
  | .default => .castToTimestamp operand

def truncation : Flavor → Granularity → Expression → Expression
  | .generic => genericTruncation
  | .impala => impalaTruncation

def intervalSum (flavor : Flavor) (operand : Expression) (amount : Binary64)
    (unit : IntervalUnit) : Expression :=
  match flavor with
  | .generic => .binary operand .plus (.verbatim (quotedInterval amount unit))
  | .impala => .call "date_add" [operand, .verbatim (bareInterval amount unit)]

def dateLiteral (_ : Flavor) (date : String) : String :=
  "DATE " ++ quotedString date

/-- Impala has no type for times of day, so they are strings there. -/
def timeLiteral (flavor : Flavor) (time : String) : String :=
  match flavor with
  | .generic => "TIME " ++ quotedString time
  | .impala => quotedString time

def timestampLiteral (flavor : Flavor) (timestamp : String) : String :=
  match flavor with
  | .generic => "TIMESTAMP " ++ quotedString timestamp
  | .impala => "CAST(" ++ quotedString timestamp ++ " AS TIMESTAMP)"

def dialect (flavor : Flavor) : Dialect :=
  { profile := flavor.profile, flavor := flavor }

end Flavor

namespace Dialect

def name (dialect : Dialect) : String :=
  dialect.profile.name

def identifier (dialect : Dialect) (name : String) : String :=
  dialect.profile.quoteStyle.identifier name

end Dialect

end ImpalaAdapter.Sql
