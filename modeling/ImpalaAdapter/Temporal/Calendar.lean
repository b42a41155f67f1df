/-
This file describes the dates of the proleptic Gregorian calendar.
-/

import ImpalaAdapter.Number.Numeral

namespace ImpalaAdapter.Temporal

def isLeapYear (year : Int) : Bool :=
  year % 4 == 0 && (year % 100 != 0 || year % 400 == 0)

def daysInMonth (year : Int) (month : Nat) : Nat :=
  if month = 2 then (if isLeapYear year then 29 else 28)
  else if month ∈ [4, 6, 9, 11] then 30
  else 31

/-- Days are counted from March 1 of the year 0. A counting year starts in March, so its leap day is
its last day, and four hundred counting years are an era of equal length. -/
def dayNumber (year : Int) (month day : Nat) : Int :=
  let countingYear := if month ≤ 2 then year - 1 else year
  let yearOfEra := countingYear % 400
  let dayOfYear : Int := ((153 * ((month + 9) % 12) + 2) / 5 + day : Nat) - 1
  countingYear / 400 * 146097 + (yearOfEra * 365 + yearOfEra / 4 - yearOfEra / 100 + dayOfYear)

/-- The first day of the calendar. -/
def firstDay : Int :=
  dayNumber (-262143) 1 1

/-- The last day of the calendar. -/
def lastDay : Int :=
  dayNumber 262142 12 31

/-- January 1, 1970. -/
def epochDay : Int :=
  dayNumber 1970 1 1

/-- A date is the number of its day. -/
structure Date where
  day : Int
  firstDay_le : firstDay ≤ day
  le_lastDay : day ≤ lastDay
deriving DecidableEq

structure CivilDate where
  year : Int
  month : Nat
  day : Nat
deriving DecidableEq

namespace Date

/-- A day number outside the calendar is no date. -/
def ofDay? (day : Int) : Option Date :=
  if bounds : firstDay ≤ day ∧ day ≤ lastDay then some ⟨day, bounds.1, bounds.2⟩ else none

/-- The month and the day have to exist in the year. -/
def ofCivil? (civil : CivilDate) : Option Date :=
  if 1 ≤ civil.month ∧ civil.month ≤ 12 ∧ 1 ≤ civil.day ∧
      civil.day ≤ daysInMonth civil.year civil.month then
    ofDay? (dayNumber civil.year civil.month civil.day)
  else none

/-- The year of the era is found by leaving out the leap days before the day. -/
def civil (date : Date) : CivilDate :=
  let dayOfEra := (date.day % 146097).toNat
  let yearOfEra := (dayOfEra - dayOfEra / 1460 + dayOfEra / 36524 - dayOfEra / 146096) / 365
  let dayOfYear := dayOfEra - (365 * yearOfEra + yearOfEra / 4 - yearOfEra / 100)
  let countingMonth := (5 * dayOfYear + 2) / 153
  let month := if countingMonth < 10 then countingMonth + 3 else countingMonth - 9
  { year := date.day / 146097 * 400 + yearOfEra + (if month ≤ 2 then 1 else 0)
    month := month
    day := dayOfYear - (153 * countingMonth + 2) / 5 + 1 }

end Date

/-- A year of four digits stands alone, and any other year has a sign and at least four digits. -/
def yearText (year : Int) : List Char :=
  if 0 ≤ year ∧ year ≤ 9999 then padded 4 year.natAbs
  else (if year < 0 then '-' else '+') :: padded 4 year.natAbs

def Date.chars (date : Date) : List Char :=
  yearText date.civil.year ++ '-' :: padded 2 date.civil.month ++ '-' :: padded 2 date.civil.day

def Date.text (date : Date) : String :=
  String.ofList date.chars

end ImpalaAdapter.Temporal
