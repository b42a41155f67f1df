/-
This file describes times of day and offsets from UTC.
-/

import ImpalaAdapter.Number.Numeral

namespace ImpalaAdapter.Temporal

/-- A time of day inside a leap second has a billion nanoseconds more than its stored second. -/
structure TimeOfDay where
  second : Nat
  nanosecond : Nat
  second_lt : second < 86400
  nanosecond_lt : nanosecond < 2000000000
deriving DecidableEq

/-- Every offset from UTC is shorter than a day. It is positive in the east. -/
structure Offset where
  seconds : Int
  gt_neg_day : -86400 < seconds
  lt_day : seconds < 86400
deriving DecidableEq

namespace Offset

def ofSeconds? (seconds : Int) : Option Offset :=
  if bounds : -86400 < seconds ∧ seconds < 86400 then some ⟨seconds, bounds.1, bounds.2⟩ else none

def utc : Offset :=
  ⟨0, by decide, by decide⟩

/-- The label of an offset drops its seconds. -/
def label (offset : Offset) : String :=
  if offset.seconds = 0 then "UTC"
  else
    let minutes := offset.seconds.natAbs / 60
    String.ofList ((if offset.seconds < 0 then '-' else '+') :: padded 2 (minutes / 60) ++
      ':' :: padded 2 (minutes % 60))

end Offset

namespace TimeOfDay

/-- Only the last second of a minute can be followed by a leap second. -/
def ofClock? (hour minute second nanosecond : Nat) : Option TimeOfDay :=
  if bounds : hour < 24 ∧ minute < 60 ∧ second < 60 ∧ nanosecond < 2000000000 ∧
      (nanosecond < 1000000000 ∨ second = 59) then
    some ⟨hour * 3600 + minute * 60 + second, nanosecond, by omega, bounds.2.2.2.1⟩
  else none

/-- The fraction of a second has no digits, three, six or nine: the fewest that are exact. -/
def fractionText (nanosecond : Nat) : List Char :=
  if nanosecond = 0 then []
  else if nanosecond % 1000000 = 0 then '.' :: padded 3 (nanosecond / 1000000)
  else if nanosecond % 1000 = 0 then '.' :: padded 6 (nanosecond / 1000)
  else '.' :: padded 9 nanosecond

/-- A leap second shows as one second more than the stored one. -/
def chars (time : TimeOfDay) : List Char :=
  padded 2 (time.second / 3600) ++ ':' :: padded 2 (time.second / 60 % 60) ++
    ':' :: padded 2 (time.second % 60 + time.nanosecond / 1000000000) ++
    fractionText (time.nanosecond % 1000000000)

def text (time : TimeOfDay) : String :=
  String.ofList time.chars

/-- The second moves around the clock, and the nanoseconds stay. -/
def rotate (time : TimeOfDay) (seconds : Int) (nanosecond : Nat)
    (nanosecond_lt : nanosecond < 2000000000) : TimeOfDay :=
  ⟨((time.second + seconds) % 86400).toNat, nanosecond, by omega, nanosecond_lt⟩

/-- A shift leaves a leap second: forwards from the stored second, and backwards from the second
after it. -/
def shift (time : TimeOfDay) (seconds : Int) : TimeOfDay :=
  if seconds = 0 then time
  else if time.nanosecond < 1000000000 then
    time.rotate seconds time.nanosecond time.nanosecond_lt
  else if 0 < seconds then
    time.rotate seconds (time.nanosecond - 1000000000) (by have := time.nanosecond_lt; omega)
  else
    time.rotate (seconds + 1) (time.nanosecond - 1000000000)
      (by have := time.nanosecond_lt; omega)

/-- The time that UTC clocks show when clocks at the offset show the given time. -/
def toUtc (time : TimeOfDay) (offset : Offset) : TimeOfDay :=
  time.shift (-offset.seconds)

end TimeOfDay

end ImpalaAdapter.Temporal
