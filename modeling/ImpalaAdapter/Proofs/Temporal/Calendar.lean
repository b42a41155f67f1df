/-
This file shows that each day of the calendar is given back by its year, month and day.
-/

import ImpalaAdapter.Temporal.Calendar
import Mathlib.Tactic.IntervalCases

namespace ImpalaAdapter.Temporal

/-- The place of a day in its era: a century, a cycle of four years in the century, a counting year
in the cycle, and a day in the year. A leap day ends the last year of a cycle, except that the last
cycle of a century has it only at the end of the era. -/
structure EraPlace where
  century : Nat
  cycle : Nat
  year : Nat
  day : Nat
  century_le : century ≤ 3
  cycle_le : cycle ≤ 24
  year_le : year ≤ 3
  day_inside : day < 365 ∨ (day = 365 ∧ year = 3 ∧ (cycle < 24 ∨ century = 3))

namespace EraPlace

def dayOfEra (place : EraPlace) : Nat :=
  36524 * place.century + 1461 * place.cycle + 365 * place.year + place.day

def yearOfEra (place : EraPlace) : Nat :=
  100 * place.century + 4 * place.cycle + place.year

/-- Every day of an era has a place. The last day of the era counts to the fourth century. -/
theorem exists_dayOfEra {day : Nat} (inside : day < 146097) :
    ∃ place : EraPlace, place.dayOfEra = day := by
  obtain ⟨century, centuryOf⟩ : ∃ century, century = min 3 (day / 36524) := ⟨_, rfl⟩
  obtain ⟨cycle, cycleOf⟩ : ∃ cycle, cycle = (day - 36524 * century) / 1461 := ⟨_, rfl⟩
  obtain ⟨year, yearOf⟩ : ∃ year, year = min 3 ((day - 36524 * century - 1461 * cycle) / 365) :=
    ⟨_, rfl⟩
  refine ⟨⟨century, cycle, year, day - 36524 * century - 1461 * cycle - 365 * year,
    by omega, by omega, by omega, by omega⟩, ?_⟩
  simp only [dayOfEra]
  omega

/-- Without the leap days before it, the day of the era gives the year. -/
theorem yearOfEra_eq (place : EraPlace) :
    (place.dayOfEra - place.dayOfEra / 1460 + place.dayOfEra / 36524 -
      place.dayOfEra / 146096) / 365 = place.yearOfEra := by
  have century_le := place.century_le
  have cycle_le := place.cycle_le
  have year_le := place.year_le
  have day_inside := place.day_inside
  obtain ⟨day, dayOf⟩ : ∃ day, day = place.dayOfEra := ⟨_, rfl⟩
  rw [← dayOf]
  simp only [dayOfEra, yearOfEra] at *
  by_cases last : day = 146096
  · have ends : place.century = 3 ∧ place.cycle = 24 ∧ place.year = 3 := by omega
    rw [last, ends.1, ends.2.1, ends.2.2]
  · have noEnd : day / 146096 = 0 := by omega
    have centuries : day / 36524 = place.century := by omega
    have leapDays : 25 * place.century + place.cycle ≤ day / 1460 ∧
        day / 1460 ≤ 25 * place.century + place.cycle + 1 := by omega
    have remainder : 24 * place.century + place.cycle + 365 * place.year + place.day <
        1460 + 1460 * (day / 1460 - 25 * place.century - place.cycle) := by omega
    rw [noEnd, centuries]
    omega

/-- The days before the counting year include its leap days. -/
theorem day_eq (place : EraPlace) :
    place.dayOfEra - (365 * place.yearOfEra + place.yearOfEra / 4 - place.yearOfEra / 100) =
      place.day := by
  have cycle_le := place.cycle_le
  have year_le := place.year_le
  simp only [dayOfEra, yearOfEra]
  omega

theorem day_lt (place : EraPlace) : place.day < 366 := by
  have day_inside := place.day_inside
  omega

/-- A counting year has a leap day when the civil year that it ends in is a leap year. -/
theorem isLeapYear_of_day_eq (place : EraPlace) (leapDay : place.day = 365) (era : Int) :
    isLeapYear (era * 400 + place.yearOfEra + 1) := by
  have day_inside := place.day_inside
  have century_le := place.century_le
  have cycle_le := place.cycle_le
  have fourth : (era * 400 + (place.yearOfEra : Int) + 1) % 4 = 0 := by
    simp only [yearOfEra]
    omega
  have exception : (era * 400 + (place.yearOfEra : Int) + 1) % 100 ≠ 0 ∨
      (era * 400 + (place.yearOfEra : Int) + 1) % 400 = 0 := by
    simp only [yearOfEra]
    omega
  simpa [isLeapYear, fourth] using exception

end EraPlace

theorem daysInMonth_le (year : Int) (month : Nat) : daysInMonth year month ≤ 31 := by
  rw [daysInMonth]
  split
  · split <;> decide
  · split <;> decide

/-- The civil date of a day in a counting year, which starts in March. -/
def civilInYear (countingYear : Int) (dayOfYear : Nat) : CivilDate :=
  let countingMonth := (5 * dayOfYear + 2) / 153
  let month := if countingMonth < 10 then countingMonth + 3 else countingMonth - 9
  { year := countingYear + (if month ≤ 2 then 1 else 0)
    month := month
    day := dayOfYear - (153 * countingMonth + 2) / 5 + 1 }

/-- The counting year and the day in it give the number of the day. -/
theorem dayNumber_civilInYear (countingYear : Int) {dayOfYear : Nat} (inside : dayOfYear < 366) :
    dayNumber (civilInYear countingYear dayOfYear).year (civilInYear countingYear dayOfYear).month
        (civilInYear countingYear dayOfYear).day =
      countingYear / 400 * 146097 +
        (countingYear % 400 * 365 + countingYear % 400 / 4 - countingYear % 400 / 100 +
          dayOfYear) := by
  obtain ⟨countingMonth, monthOf⟩ : ∃ month, month = (5 * dayOfYear + 2) / 153 := ⟨_, rfl⟩
  have bound : countingMonth ≤ 11 := by omega
  have started : (153 * countingMonth + 2) / 5 ≤ dayOfYear := by omega
  simp only [civilInYear, dayNumber, ← monthOf]
  by_cases early : countingMonth < 10
  · have month : (countingMonth + 3 + 9) % 12 = countingMonth := by omega
    have late : ¬ countingMonth + 3 ≤ 2 := by omega
    simp only [if_pos early, if_neg late, month, Int.add_zero]
    omega
  · have month : (countingMonth - 9 + 9) % 12 = countingMonth := by omega
    have nextYear : countingMonth - 9 ≤ 2 := by omega
    simp only [if_neg early, if_pos nextYear, month, Int.add_sub_cancel]
    omega

/-- The month and the day of a civil date exist in its year. -/
theorem civilInYear_exists (countingYear : Int) {dayOfYear : Nat} (inside : dayOfYear < 366)
    (leap : dayOfYear = 365 → isLeapYear (countingYear + 1)) :
    1 ≤ (civilInYear countingYear dayOfYear).month ∧
      (civilInYear countingYear dayOfYear).month ≤ 12 ∧
      1 ≤ (civilInYear countingYear dayOfYear).day ∧
      (civilInYear countingYear dayOfYear).day ≤
        daysInMonth (civilInYear countingYear dayOfYear).year
          (civilInYear countingYear dayOfYear).month := by
  obtain ⟨countingMonth, monthOf⟩ : ∃ month, month = (5 * dayOfYear + 2) / 153 := ⟨_, rfl⟩
  have bound : countingMonth < 12 := by omega
  simp only [civilInYear, ← monthOf]
  by_cases february : countingMonth = 11
  · have day : dayOfYear - (153 * countingMonth + 2) / 5 + 1 ≤ 29 := by omega
    have noLeap : ¬ isLeapYear (countingYear + 1) → dayOfYear < 365 := by
      intro common
      by_contra late
      exact common (leap (by omega))
    subst february
    simp only [daysInMonth, Nat.reduceLT, if_false, Nat.reduceSub, Nat.le_refl, if_true]
    refine ⟨by decide, by decide, by omega, ?_⟩
    split
    case isTrue => exact day
    case isFalse common =>
      have := noLeap common
      omega
  · have month : countingMonth < 11 := by omega
    interval_cases countingMonth
    all_goals
      simp only [daysInMonth]
      refine ⟨by decide, by decide, by omega, ?_⟩
      simp
      omega

namespace Date

theorem civil_of_place (date : Date) {place : EraPlace}
    (located : place.dayOfEra = (date.day % 146097).toNat) :
    date.civil = civilInYear (date.day / 146097 * 400 + place.yearOfEra) place.day := by
  simp only [civil, ← located, place.yearOfEra_eq, place.day_eq, civilInYear]

theorem exists_place (date : Date) :
    ∃ place : EraPlace, place.dayOfEra = (date.day % 146097).toNat :=
  EraPlace.exists_dayOfEra (by omega)

/-- The number of a day is found again from its civil date. -/
theorem dayNumber_civil (date : Date) :
    dayNumber date.civil.year date.civil.month date.civil.day = date.day := by
  obtain ⟨place, located⟩ := date.exists_place
  have century_le := place.century_le
  have cycle_le := place.cycle_le
  have year_le := place.year_le
  have year_lt : place.yearOfEra < 400 := by
    simp only [EraPlace.yearOfEra]
    omega
  have era : (date.day / 146097 * 400 + (place.yearOfEra : Int)) / 400 = date.day / 146097 := by
    omega
  have yearOfEra : (date.day / 146097 * 400 + (place.yearOfEra : Int)) % 400 =
      place.yearOfEra := by
    omega
  have dayOfYear := place.day_eq
  have before : 365 * place.yearOfEra + place.yearOfEra / 4 - place.yearOfEra / 100 ≤
      place.dayOfEra := by
    simp only [EraPlace.dayOfEra, EraPlace.yearOfEra]
    omega
  rw [date.civil_of_place located, dayNumber_civilInYear _ place.day_lt, era, yearOfEra]
  omega

/-- The month and the day of a date exist in its year. -/
theorem civil_exists (date : Date) :
    1 ≤ date.civil.month ∧ date.civil.month ≤ 12 ∧ 1 ≤ date.civil.day ∧
      date.civil.day ≤ daysInMonth date.civil.year date.civil.month := by
  obtain ⟨place, located⟩ := date.exists_place
  rw [date.civil_of_place located]
  exact civilInYear_exists _ place.day_lt fun leapDay => place.isLeapYear_of_day_eq leapDay _

/-- Every day of the calendar is the day of its civil date. -/
theorem ofCivil?_civil (date : Date) : ofCivil? date.civil = some date := by
  rw [ofCivil?, if_pos date.civil_exists, dayNumber_civil, ofDay?,
    dif_pos ⟨date.firstDay_le, date.le_lastDay⟩]

end Date

end ImpalaAdapter.Temporal
