/-
This file describes moments: date-times on a wall clock, and the instants that they denote.
-/

import ImpalaAdapter.Temporal.Calendar
import ImpalaAdapter.Temporal.Clock

namespace ImpalaAdapter.Temporal

structure LocalDateTime where
  date : Date
  time : TimeOfDay
deriving DecidableEq

namespace LocalDateTime

/-- This count of seconds starts with the day count of the calendar. -/
def totalSeconds (moment : LocalDateTime) : Int :=
  moment.date.day * 86400 + moment.time.second

/-- The whole seconds since January 1, 1970. -/
def unixSeconds (moment : LocalDateTime) : Int :=
  moment.totalSeconds - epochDay * 86400

/-- A shift moves the stored second and leaves the nanoseconds, also those of a leap second. The
calendar has no moment outside its range. -/
def shift? (moment : LocalDateTime) (seconds : Int) : Option LocalDateTime :=
  let total := moment.totalSeconds + seconds
  (Date.ofDay? (total / 86400)).map fun date =>
    { date := date
      time := ⟨(total % 86400).toNat, moment.time.nanosecond, by omega, moment.time.nanosecond_lt⟩ }

/-- The separator stands between the date and the time. -/
def text (separator : Char) (moment : LocalDateTime) : String :=
  String.ofList (moment.date.chars ++ separator :: moment.time.chars)

end LocalDateTime

/-- An instant on the UTC clock, with the offset of the clock that showed it. -/
structure OffsetDateTime where
  utc : LocalDateTime
  offset : Offset
deriving DecidableEq

namespace OffsetDateTime

def ofWallClock? (wallClock : LocalDateTime) (offset : Offset) : Option OffsetDateTime :=
  (wallClock.shift? (-offset.seconds)).map fun utc => { utc := utc, offset := offset }

/-- The wall clock of an instant can leave the range of the calendar. -/
def wallClock? (moment : OffsetDateTime) : Option LocalDateTime :=
  moment.utc.shift? moment.offset.seconds

end OffsetDateTime

end ImpalaAdapter.Temporal
