/-
This file says where a shift takes a moment and a time of day.
-/

import ImpalaAdapter.Temporal.Moment

namespace ImpalaAdapter.Temporal

theorem Date.ofDay?_eq_some_iff {day : Int} {date : Date} :
    Date.ofDay? day = some date ↔ date.day = day := by
  rw [Date.ofDay?]
  split
  case isTrue bounds =>
    rw [Option.some.injEq]
    constructor
    · rintro rfl
      rfl
    · rintro rfl
      rfl
  case isFalse outside =>
    constructor
    · intro found
      cases found
    · rintro rfl
      exact (outside ⟨date.firstDay_le, date.le_lastDay⟩).elim

namespace LocalDateTime

/-- The seconds and the nanoseconds of a moment determine it. -/
theorem ext_total {first second : LocalDateTime}
    (total : first.totalSeconds = second.totalSeconds)
    (nanosecond : first.time.nanosecond = second.time.nanosecond) : first = second := by
  obtain ⟨⟨firstDay, _, _⟩, ⟨firstSecond, firstNanosecond, firstInside, _⟩⟩ := first
  obtain ⟨⟨secondDay, _, _⟩, ⟨secondSecond, secondNanosecond, secondInside, _⟩⟩ := second
  simp only [totalSeconds] at total
  have day : firstDay = secondDay := by omega
  have inDay : firstSecond = secondSecond := by omega
  subst day inDay
  cases nanosecond
  rfl

/-- A shift adds its seconds and keeps the nanoseconds, when the calendar has that moment. -/
theorem shift?_eq_some_iff {moment shifted : LocalDateTime} {seconds : Int} :
    moment.shift? seconds = some shifted ↔
      shifted.totalSeconds = moment.totalSeconds + seconds ∧
        shifted.time.nanosecond = moment.time.nanosecond := by
  constructor
  · intro shift
    obtain ⟨date, dayOf, rfl⟩ := Option.map_eq_some_iff.mp shift
    have day := Date.ofDay?_eq_some_iff.mp dayOf
    refine ⟨?_, rfl⟩
    simp only [totalSeconds] at day ⊢
    omega
  · rintro ⟨total, nanosecond⟩
    have inside := shifted.time.second_lt
    have day : shifted.date.day = (moment.totalSeconds + seconds) / 86400 := by
      rw [← total, totalSeconds]
      omega
    refine Option.map_eq_some_iff.mpr ⟨shifted.date, Date.ofDay?_eq_some_iff.mpr day, ?_⟩
    apply ext_total
    · show shifted.date.day * 86400 + ((moment.totalSeconds + seconds) % 86400).toNat = _
      rw [total, day]
      omega
    · exact nanosecond.symm

theorem shift?_zero (moment : LocalDateTime) : moment.shift? 0 = some moment :=
  shift?_eq_some_iff.mpr ⟨by rw [Int.add_zero], rfl⟩

end LocalDateTime

namespace TimeOfDay

variable {time : TimeOfDay}

theorem rotate_second (seconds : Int) (nanosecond : Nat) (inside : nanosecond < 2000000000) :
    ((time.rotate seconds nanosecond inside).second : Int) = (time.second + seconds) % 86400 := by
  simp only [rotate]
  omega

/-- A time outside a leap second keeps its nanoseconds when it goes to UTC. -/
theorem toUtc_nanosecond (plain : time.nanosecond < 1000000000) (offset : Offset) :
    (time.toUtc offset).nanosecond = time.nanosecond := by
  rw [toUtc, shift]
  split
  · rfl
  · rfl

/-- The second of a time in UTC goes around the clock. -/
theorem toUtc_second (plain : time.nanosecond < 1000000000) (offset : Offset) :
    ((time.toUtc offset).second : Int) = (time.second - offset.seconds) % 86400 := by
  have inside := time.second_lt
  rw [toUtc, shift]
  split
  · omega
  · rw [rotate_second, ← Int.sub_eq_add_neg]

end TimeOfDay

end ImpalaAdapter.Temporal
