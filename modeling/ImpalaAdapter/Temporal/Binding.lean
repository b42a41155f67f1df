/-
This file describes how temporal values are bound as parameters and read from results.
-/

import ImpalaAdapter.Sql.NativeType
import ImpalaAdapter.Temporal.Moment

namespace ImpalaAdapter.Temporal

inductive Value where
  | date (date : Date)
  | time (time : TimeOfDay)
  | offsetTime (time : TimeOfDay) (offset : Offset)
  | localDateTime (moment : LocalDateTime)
  | offsetDateTime (moment : OffsetDateTime)
  | zonedDateTime (moment : OffsetDateTime) (zone : String)
deriving DecidableEq

/-- The zone of a session has an offset at every instant on the UTC clock. -/
structure SessionZone where
  name : String
  offsetAt : LocalDateTime → Offset

namespace SessionZone

def fixed (name : String) (offset : Offset) : SessionZone :=
  { name := name, offsetAt := fun _ => offset }

def utc : SessionZone :=
  fixed "UTC" .utc

/-- The last listed change that has happened at an instant sets its offset. -/
def switching (name : String) (initial : Offset) (changes : List (Int × Offset)) : SessionZone where
  name := name
  offsetAt instant :=
    changes.foldl
      (fun offset change => if change.1 ≤ instant.unixSeconds then change.2 else offset) initial

end SessionZone

inductive BoundValue where
  | date (date : Date)
  | time (time : TimeOfDay)
  | dateTime (moment : LocalDateTime)
deriving DecidableEq

/-- Dates and times are divided by the letter T in a bound value. -/
def BoundValue.text : BoundValue → String
  | .date day => day.text
  | .time clock => clock.text
  | .dateTime moment => moment.text 'T'

/-- Impala binds no offsets. A time goes to UTC, and an instant goes to the wall clock of the
session. There is no bound value when that clock leaves the calendar. -/
def bind? (session : SessionZone) : Value → Option BoundValue
  | .date date => some (.date date)
  | .time time => some (.time time)
  | .offsetTime time offset => some (.time (time.toUtc offset))
  | .localDateTime moment => some (.dateTime moment)
  | .offsetDateTime moment | .zonedDateTime moment _ =>
      (OffsetDateTime.wallClock? { utc := moment.utc, offset := session.offsetAt moment.utc }).map
        .dateTime

/-- A column has the type that the adapter gave it and the type that the server reported. -/
structure Column where
  semanticType : Sql.SemanticType
  nativeType : String
deriving DecidableEq

/-- Only timestamp columns are read as date-times. -/
def Column.readDateTime (column : Column) (source : Option LocalDateTime) :
    Option LocalDateTime :=
  if column.semanticType = .dateTime ∧ column.nativeType = Sql.NativeType.timestampName then source
  else none

end ImpalaAdapter.Temporal
