/-
This file describes readers of dates, times and offset labels, and shows that each written text is
read back.
-/

import ImpalaAdapter.Temporal.Literal
import ImpalaAdapter.Proofs.Number.Numeral
import ImpalaAdapter.Proofs.Sql.LexemeReading
import ImpalaAdapter.Proofs.Temporal.Calendar

namespace ImpalaAdapter.Temporal

open Sql (Reader)
open Sql.Reader (skip)

namespace Offset

/-- The minutes of an offset without its further seconds. -/
def wholeMinutes (offset : Offset) : Int :=
  if offset.seconds < 0 then -(offset.seconds.natAbs / 60 : Nat)
  else (offset.seconds.natAbs / 60 : Nat)

/-- The seconds of an offset beyond its whole minutes, with the sign of the offset. -/
def droppedSeconds (offset : Offset) : Int :=
  if offset.seconds < 0 then -(offset.seconds.natAbs % 60 : Nat)
  else (offset.seconds.natAbs % 60 : Nat)

theorem seconds_eq (offset : Offset) :
    offset.seconds = offset.wholeMinutes * 60 + offset.droppedSeconds := by
  rw [wholeMinutes, droppedSeconds]
  split
  · omega
  · omega

theorem droppedSeconds_eq_zero_iff (offset : Offset) :
    offset.droppedSeconds = 0 ↔ 60 ∣ offset.seconds := by
  rw [droppedSeconds]
  split
  · omega
  · omega

theorem droppedSeconds_bounds (offset : Offset) :
    -60 < offset.droppedSeconds ∧ offset.droppedSeconds < 60 := by
  rw [droppedSeconds]
  split
  · omega
  · omega

end Offset

namespace Reading

/-- A field has exactly this many digits. -/
def field (width : Nat) : Reader Nat := fun text =>
  if (text.take width).length = width ∧ (text.take width).all isDigit then
    some (numeralValue (text.take width), text.drop width)
  else none

/-- The digits of a year are at least four. -/
def yearDigits : Reader Nat := fun text =>
  let run := text.takeWhile isDigit
  if 4 ≤ run.length then some (numeralValue run, text.dropWhile isDigit) else none

/-- The sign of a year is optional. -/
def year : Reader Int := fun text =>
  match skip "-" text with
  | some rest => (yearDigits rest).map fun found => (-(found.1 : Int), found.2)
  | none =>
      (yearDigits ((skip "+" text).getD text)).map fun found => ((found.1 : Int), found.2)

/-- The day that is read has to exist. -/
def date : Reader Date := fun text => do
  let (year, rest) ← year text
  let rest ← skip "-" rest
  let (month, rest) ← field 2 rest
  let rest ← skip "-" rest
  let (day, rest) ← field 2 rest
  (Date.ofCivil? ⟨year, month, day⟩).map fun date => (date, rest)

/-- The nanoseconds in one unit of the last digit of a fraction. -/
def fractionUnit? : Nat → Option Nat
  | 3 => some 1000000
  | 6 => some 1000
  | 9 => some 1
  | _ => none

/-- A fraction is read as nanoseconds. There are none when no point stands there. -/
def fraction : Reader Nat := fun text =>
  match skip "." text with
  | none => some (0, text)
  | some rest =>
      let run := rest.takeWhile isDigit
      (fractionUnit? run.length).map fun unit =>
        (numeralValue run * unit, rest.dropWhile isDigit)

def time : Reader TimeOfDay := fun text => do
  let (hour, rest) ← field 2 text
  let rest ← skip ":" rest
  let (minute, rest) ← field 2 rest
  let rest ← skip ":" rest
  let (second, rest) ← field 2 rest
  let (nanosecond, rest) ← fraction rest
  (TimeOfDay.ofClock? hour minute second nanosecond).map fun time => (time, rest)

def dateTime : Reader LocalDateTime := fun text => do
  let (date, rest) ← date text
  let rest ← skip " " rest
  let (time, rest) ← time rest
  some (⟨date, time⟩, rest)

/-- A signed label is read as minutes. -/
def signedMinutes : Reader Int := fun text => do
  let (direction, rest) ← match skip "-" text with
    | some rest => some ((-1 : Int), rest)
    | none => (skip "+" text).map fun rest => (1, rest)
  let (hours, rest) ← field 2 rest
  let rest ← skip ":" rest
  let (minutes, rest) ← field 2 rest
  some (direction * (hours * 60 + minutes : Nat), rest)

/-- The offset that a label names, in minutes. -/
def offsetMinutes : Reader Int := fun text =>
  match skip "UTC" text with
  | some rest => some (0, rest)
  | none => signedMinutes text

/-- Nothing is left after the value. -/
def whole {Value : Type} (reader : Reader Value) (text : List Char) : Option Value :=
  match reader text with
  | some (value, []) => some value
  | _ => none

/-- A time goes on with digits and a point. -/
def EndsTime (rest : List Char) : Prop :=
  Text.StopsRun (fun character => isDigit character || character == '.') rest

theorem EndsTime.stops {rest : List Char} (ends : EndsTime rest) :
    Text.StopsRun isDigit rest ∧ Text.StopsRun (· == '.') rest := by
  constructor
  · intro character member
    have outside := ends character member
    rw [Bool.or_eq_false_iff] at outside
    exact outside.1
  · intro character member
    have outside := ends character member
    rw [Bool.or_eq_false_iff] at outside
    exact outside.2

theorem field_padded {width number : Nat} (positive : 0 < width)
    (fits : number < Nat.pow 10 width) (rest : List Char) :
    field width (padded width number ++ rest) = some (number, rest) := by
  have length := length_padded_of_lt positive fits
  have inside : (padded width number).all isDigit :=
    List.all_eq_true.mpr (isDigit_of_mem_padded width number)
  simp only [field, List.take_left' length, List.drop_left' length, numeralValue_padded]
  rw [if_pos ⟨length, inside⟩]

theorem field_two {number : Nat} (fits : number < 100) (rest : List Char) :
    field 2 (padded 2 number ++ rest) = some (number, rest) :=
  field_padded (by decide) fits rest

theorem yearDigits_padded (number : Nat) {rest : List Char} (stops : Text.StopsRun isDigit rest) :
    yearDigits (padded 4 number ++ rest) = some (number, rest) := by
  have inside := isDigit_of_mem_padded 4 number
  have enough : 4 ≤ (padded 4 number).length := by
    rw [length_padded]
    omega
  simp only [yearDigits, Text.takeWhile_run inside stops, Text.dropWhile_run inside stops,
    numeralValue_padded]
  rw [if_pos enough]

/-- A padded numeral starts with a digit, so no other mark stands there. -/
theorem skip_padded {mark : String} {first : Char} {more : List Char}
    (spelled : mark.toList = first :: more) (other : isDigit first = false)
    (width number : Nat) (rest : List Char) :
    skip mark (padded width number ++ rest) = none := by
  obtain ⟨digit, digits, opening⟩ := List.exists_cons_of_ne_nil (padded_ne_nil width number)
  have different : digit ≠ first := by
    rintro rfl
    have inside := isDigit_of_mem_padded width number digit (by simp [opening])
    rw [other] at inside
    cases inside
  rw [skip, spelled, opening]
  exact Sql.Reader.isPrefixOf?_eq_none more (by simpa using different)

/-- Every year is read back with its sign. -/
theorem year_yearText (value : Int) {rest : List Char} (stops : Text.StopsRun isDigit rest) :
    year (yearText value ++ rest) = some (value, rest) := by
  have positive (mark : value ≥ 0) : (value.natAbs : Int) = value := by omega
  have negative (mark : value < 0) : -(value.natAbs : Int) = value := by omega
  rw [yearText]
  split
  case isTrue short =>
    rw [year, skip_padded (by decide : "-".toList = ['-']) (by decide),
      skip_padded (by decide : "+".toList = ['+']) (by decide)]
    simp only [Option.getD_none, yearDigits_padded _ stops, Option.map_some, positive short.1]
  case isFalse long =>
    by_cases sign : value < 0
    · rw [if_pos sign, List.cons_append, year]
      have signed (text : List Char) : skip "-" ('-' :: text) = some text := rfl
      simp only [signed, yearDigits_padded _ stops, Option.map_some, negative sign]
    · rw [if_neg sign, List.cons_append, year]
      have unsigned (text : List Char) : skip "-" ('+' :: text) = none := rfl
      have signed (text : List Char) : skip "+" ('+' :: text) = some text := rfl
      simp only [unsigned, signed, Option.getD_some, yearDigits_padded _ stops, Option.map_some,
        positive (by omega)]

/-- Every date is read back from its text. -/
theorem date_chars (value : Date) (rest : List Char) :
    date (value.chars ++ rest) = some (value, rest) := by
  obtain ⟨_, month, _, day⟩ := value.civil_exists
  have fewDays := daysInMonth_le value.civil.year value.civil.month
  have monthRead := field_two (by omega : value.civil.month < 100)
  have dayRead := field_two (by omega : value.civil.day < 100)
  have hyphen (text : List Char) : skip "-" ('-' :: text) = some text := rfl
  have stops (text : List Char) : Text.StopsRun isDigit ('-' :: text) := by
    rw [Text.stopsRun_cons]
    decide
  have found : Date.ofCivil? ⟨value.civil.year, value.civil.month, value.civil.day⟩ = some value :=
    value.ofCivil?_civil
  simp only [Date.chars, date, List.append_assoc, List.cons_append, year_yearText _ (stops _),
    hyphen, monthRead, dayRead, Option.bind_eq_bind, Option.bind_some, found, Option.map_some]

/-- The text of a date has nothing after it. -/
theorem date_text (value : Date) : date (value.text.toList ++ []) = some (value, []) := by
  rw [Date.text, String.toList_ofList]
  exact date_chars value []

/-- A unit that the width of a fraction has is found from its digits. -/
theorem fraction_padded {width number unit : Nat} (unitOf : fractionUnit? width = some unit)
    (positive : 0 < width) (fits : number < Nat.pow 10 width) {rest : List Char}
    (stops : Text.StopsRun isDigit rest) :
    fraction ('.' :: padded width number ++ rest) = some (number * unit, rest) := by
  have point (text : List Char) : skip "." ('.' :: text) = some text := rfl
  have inside := isDigit_of_mem_padded width number
  simp only [fraction, List.cons_append, point, Text.takeWhile_run inside stops,
    Text.dropWhile_run inside stops, length_padded_of_lt positive fits, unitOf, Option.map_some,
    numeralValue_padded]

/-- The nanoseconds are read back whatever number of digits they need. -/
theorem fraction_fractionText {nanosecond : Nat} (inside : nanosecond < 1000000000)
    {rest : List Char} (ends : EndsTime rest) :
    fraction (TimeOfDay.fractionText nanosecond ++ rest) = some (nanosecond, rest) := by
  obtain ⟨stops, noPoint⟩ := ends.stops
  rw [TimeOfDay.fractionText]
  split
  case isTrue zero =>
    have noFraction : skip "." rest = none := Sql.Reader.isPrefixOf?_eq_none [] noPoint
    rw [List.nil_append, fraction, noFraction, zero]
  case isFalse _ =>
    split
    case isTrue thousands =>
      have restored : nanosecond / 1000000 * 1000000 = nanosecond := by omega
      have below : nanosecond / 1000000 < 1000 := by omega
      rw [fraction_padded (by rfl : fractionUnit? 3 = some 1000000) (by decide) below stops,
        restored]
    case isFalse _ =>
      split
      case isTrue thousands =>
        have restored : nanosecond / 1000 * 1000 = nanosecond := by omega
        have below : nanosecond / 1000 < 1000000 := by omega
        rw [fraction_padded (by rfl : fractionUnit? 6 = some 1000) (by decide) below stops,
          restored]
      case isFalse _ =>
        rw [fraction_padded (by rfl : fractionUnit? 9 = some 1) (by decide) inside stops,
          Nat.mul_one]

/-- A time outside a leap second is the time of its hour, minute and second. -/
theorem ofClock?_fields {value : TimeOfDay} (plain : value.nanosecond < 1000000000) :
    TimeOfDay.ofClock? (value.second / 3600) (value.second / 60 % 60) (value.second % 60)
      value.nanosecond = some value := by
  have second_lt := value.second_lt
  have bounds : value.second / 3600 < 24 ∧ value.second / 60 % 60 < 60 ∧ value.second % 60 < 60 ∧
      value.nanosecond < 2000000000 ∧
        (value.nanosecond < 1000000000 ∨ value.second % 60 = 59) :=
    ⟨by omega, by omega, by omega, value.nanosecond_lt, Or.inl plain⟩
  have restored : value.second / 3600 * 3600 + value.second / 60 % 60 * 60 + value.second % 60 =
      value.second := by
    omega
  simp only [TimeOfDay.ofClock?, dif_pos bounds, restored]

/-- A time outside a leap second is read back from its text. -/
theorem time_chars {value : TimeOfDay} (plain : value.nanosecond < 1000000000)
    {rest : List Char} (ends : EndsTime rest) :
    time (value.chars ++ rest) = some (value, rest) := by
  have second_lt := value.second_lt
  have hourRead := field_two (by omega : value.second / 3600 < 100)
  have minuteRead := field_two (by omega : value.second / 60 % 60 < 100)
  have secondRead := field_two (by omega : value.second % 60 < 100)
  have noLeap : value.nanosecond / 1000000000 = 0 := by omega
  have stored : value.nanosecond % 1000000000 = value.nanosecond := by omega
  have colon (text : List Char) : skip ":" (':' :: text) = some text := rfl
  simp only [TimeOfDay.chars, noLeap, stored, Nat.add_zero, time, List.append_assoc,
    List.cons_append, colon, hourRead, minuteRead, secondRead, fraction_fractionText plain ends,
    ofClock?_fields plain, Option.bind_eq_bind, Option.bind_some, Option.map_some]

/-- The text of a time has nothing after it. -/
theorem time_text {value : TimeOfDay} (plain : value.nanosecond < 1000000000) :
    time (value.text.toList ++ []) = some (value, []) := by
  rw [TimeOfDay.text, String.toList_ofList]
  exact time_chars plain (Text.stopsRun_nil _)

/-- A moment outside a leap second is read back from its text in SQL. -/
theorem dateTime_sqlText {value : LocalDateTime} (plain : value.time.nanosecond < 1000000000)
    {rest : List Char} (ends : EndsTime rest) :
    dateTime (value.sqlText.toList ++ rest) = some (value, rest) := by
  have space (text : List Char) : skip " " (' ' :: text) = some text := rfl
  simp only [LocalDateTime.sqlText, LocalDateTime.text, String.toList_ofList, List.append_assoc,
    List.cons_append, dateTime, date_chars, space, time_chars plain ends, Option.bind_eq_bind,
    Option.bind_some]

theorem signedMinutes_label {sign : Char} {direction : Int} {minutes : Nat}
    (signed : (sign = '-' ∧ direction = -1) ∨ (sign = '+' ∧ direction = 1))
    (inside : minutes < 1440) (rest : List Char) :
    signedMinutes (sign :: padded 2 (minutes / 60) ++ ':' :: padded 2 (minutes % 60) ++ rest) =
      some (direction * minutes, rest) := by
  have hourRead := field_two (by omega : minutes / 60 < 100)
  have minuteRead := field_two (by omega : minutes % 60 < 100)
  have restored : minutes / 60 * 60 + minutes % 60 = minutes := by omega
  have colon (text : List Char) : skip ":" (':' :: text) = some text := rfl
  have west (text : List Char) : skip "-" ('-' :: text) = some text := rfl
  have notWest (text : List Char) : skip "-" ('+' :: text) = none := rfl
  have east (text : List Char) : skip "+" ('+' :: text) = some text := rfl
  rcases signed with ⟨rfl, rfl⟩ | ⟨rfl, rfl⟩
  · simp only [signedMinutes, List.append_assoc, List.cons_append, west, hourRead, colon,
      minuteRead, Option.bind_eq_bind, Option.bind_some, restored]
  · simp only [signedMinutes, List.append_assoc, List.cons_append, notWest, east, hourRead, colon,
      minuteRead, Option.bind_eq_bind, Option.bind_some, Option.map_some, restored]

/-- The label of an offset names its whole minutes. -/
theorem offsetMinutes_label (offset : Offset) (rest : List Char) :
    offsetMinutes (offset.label.toList ++ rest) = some (offset.wholeMinutes, rest) := by
  have gt_neg_day := offset.gt_neg_day
  have lt_day := offset.lt_day
  have inside : offset.seconds.natAbs / 60 < 1440 := by omega
  have noName {sign : Char} (text : List Char) (other : sign ≠ 'U') :
      skip "UTC" (sign :: text) = none := by
    show ['U', 'T', 'C'].isPrefixOf? _ = none
    exact Sql.Reader.isPrefixOf?_eq_none _ (by simpa using other)
  rw [Offset.label]
  split
  case isTrue zero =>
    rw [offsetMinutes, Sql.Reader.skip_append, Offset.wholeMinutes, zero]
    rfl
  case isFalse nonzero =>
    by_cases west : offset.seconds < 0
    · have named : -1 * ((offset.seconds.natAbs / 60 : Nat) : Int) = offset.wholeMinutes := by
        rw [Offset.wholeMinutes, if_pos west]
        omega
      rw [if_pos west, String.toList_ofList, offsetMinutes, List.cons_append, List.cons_append,
        noName _ (by decide)]
      exact named ▸ signedMinutes_label (Or.inl ⟨rfl, rfl⟩) inside rest
    · have named : 1 * ((offset.seconds.natAbs / 60 : Nat) : Int) = offset.wholeMinutes := by
        rw [Offset.wholeMinutes, if_neg west]
        omega
      rw [if_neg west, String.toList_ofList, offsetMinutes, List.cons_append, List.cons_append,
        noName _ (by decide)]
      exact named ▸ signedMinutes_label (Or.inr ⟨rfl, rfl⟩) inside rest

end Reading
end ImpalaAdapter.Temporal
