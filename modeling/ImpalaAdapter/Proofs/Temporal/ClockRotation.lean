/-
This file shows that a time of day goes to UTC as the clock of a whole date-time does, and that the
opposite offset takes it back.
-/

import ImpalaAdapter.Proofs.Temporal.Inlining
import Mathlib.Logic.Equiv.Defs

namespace ImpalaAdapter.Temporal

/-- Clocks at the opposite offset are as late as clocks at this offset are early. -/
def Offset.opposite (offset : Offset) : Offset where
  seconds := -offset.seconds
  gt_neg_day := by
    have := offset.lt_day
    omega
  lt_day := by
    have := offset.gt_neg_day
    omega

@[simp] theorem Offset.seconds_opposite (offset : Offset) :
    offset.opposite.seconds = -offset.seconds :=
  rfl

theorem Offset.opposite_opposite (offset : Offset) : offset.opposite.opposite = offset := by
  simp only [opposite, Int.neg_neg]

@[ext] theorem TimeOfDay.ext {first second : TimeOfDay} (sameSecond : first.second = second.second)
    (sameNanosecond : first.nanosecond = second.nanosecond) : first = second := by
  cases first
  cases second
  cases sameSecond
  cases sameNanosecond
  rfl

/-- A time of day outside a leap second. -/
abbrev PlainTime :=
  { time : TimeOfDay // time.nanosecond < 1000000000 }

namespace PlainTime

variable (time : PlainTime) (offset : Offset)

/-- The shift to UTC leads to no leap second. -/
def toUtc : PlainTime :=
  ⟨time.val.toUtc offset, by
    rw [TimeOfDay.toUtc_nanosecond time.property]
    exact time.property⟩

theorem toUtc_second :
    ((time.toUtc offset).val.second : Int) = (time.val.second - offset.seconds) % 86400 :=
  TimeOfDay.toUtc_second time.property offset

theorem toUtc_nanosecond : (time.toUtc offset).val.nanosecond = time.val.nanosecond :=
  TimeOfDay.toUtc_nanosecond time.property offset

/-- Each second of the day is passed once, so the way back is the opposite shift. -/
theorem toUtc_opposite : (time.toUtc offset).toUtc offset.opposite = time := by
  have there := time.toUtc_second offset
  have back := (time.toUtc offset).toUtc_second offset.opposite
  have inside := time.val.second_lt
  apply Subtype.ext
  ext
  · rw [there, Offset.seconds_opposite] at back
    omega
  · rw [toUtc_nanosecond, toUtc_nanosecond]

end PlainTime

/-- The times of day at an offset and the times of day in UTC correspond to each other. -/
def utcShift (offset : Offset) : PlainTime ≃ PlainTime where
  toFun time := time.toUtc offset
  invFun time := time.toUtc offset.opposite
  left_inv time := time.toUtc_opposite offset
  right_inv time := by
    have back := time.toUtc_opposite offset.opposite
    rwa [offset.opposite_opposite] at back

/-- A count of seconds that belongs to a day of the calendar. -/
def InCalendar (seconds : Int) : Prop :=
  firstDay * 86400 ≤ seconds ∧ seconds < (lastDay + 1) * 86400

namespace LocalDateTime

/-- A shift inside the calendar has a result. -/
theorem exists_shift? {moment : LocalDateTime} {seconds : Int}
    (inside : InCalendar (moment.totalSeconds + seconds)) :
    ∃ shifted, moment.shift? seconds = some shifted := by
  obtain ⟨atLeast, below⟩ := inside
  have bounds : firstDay ≤ (moment.totalSeconds + seconds) / 86400 ∧
      (moment.totalSeconds + seconds) / 86400 ≤ lastDay := by
    omega
  show ∃ shifted, (Date.ofDay? ((moment.totalSeconds + seconds) / 86400)).map _ = some shifted
  rw [Date.ofDay?, dif_pos bounds]
  exact ⟨_, rfl⟩

/-- A shift of a whole date-time moves the time of day around the clock. The days only take up the
carry. -/
theorem time_of_shift? {moment shifted : LocalDateTime} {seconds : Int}
    (shift : moment.shift? seconds = some shifted) :
    (shifted.time.second : Int) = (moment.time.second + seconds) % 86400 ∧
      shifted.time.nanosecond = moment.time.nanosecond := by
  obtain ⟨total, nanosecond⟩ := shift?_eq_some_iff.mp shift
  have inside := shifted.time.second_lt
  refine ⟨?_, nanosecond⟩
  simp only [totalSeconds] at total
  omega

end LocalDateTime

/-- A moment that was read from a plain clock shows the shifted time of that clock in UTC. -/
theorem OffsetDateTime.time_of_ofWallClock? {date : Date} {time : PlainTime} {offset : Offset}
    {moment : OffsetDateTime} (shown : ofWallClock? ⟨date, time⟩ offset = some moment) :
    moment.utc.time = time.toUtc offset := by
  obtain ⟨utc, shift, rfl⟩ := Option.map_eq_some_iff.mp shown
  obtain ⟨second, nanosecond⟩ := LocalDateTime.time_of_shift? shift
  ext
  · have around := time.toUtc_second offset
    rw [← Int.sub_eq_add_neg] at second
    exact Int.ofNat_inj.mp (second.trans around.symm)
  · rw [time.toUtc_nanosecond]
    exact nanosecond

/-- A time of day with an offset is bound as the time at which the whole date-time is bound in a
UTC session, on every date whose instant the calendar has. At one offset the times of day and the
bound times correspond to each other, with the same nanoseconds, and the opposite offset leads
back. -/
theorem bind?_offsetTime (offset : Offset) :
    (∀ (session : SessionZone) (date : Date) (time : PlainTime),
      InCalendar (LocalDateTime.totalSeconds ⟨date, time⟩ - offset.seconds) →
      ∃ moment clock, OffsetDateTime.ofWallClock? ⟨date, time⟩ offset = some moment ∧
        bind? .utc (.offsetDateTime moment) = some (.dateTime clock) ∧
        bind? session (.offsetTime time offset) = some (.time clock.time)) ∧
    ∃ shift : PlainTime ≃ PlainTime, ∀ (session : SessionZone) (time : PlainTime),
      bind? session (.offsetTime time offset) = some (.time (shift time)) ∧
        bind? session (.offsetTime time offset.opposite) = some (.time (shift.symm time)) ∧
        (shift time).val.nanosecond = time.val.nanosecond := by
  constructor
  · intro session date time inside
    obtain ⟨utc, shift⟩ := LocalDateTime.exists_shift? (Int.sub_eq_add_neg ▸ inside)
    have shown : OffsetDateTime.ofWallClock? ⟨date, time⟩ offset = some ⟨utc, offset⟩ := by
      unfold OffsetDateTime.ofWallClock?
      rw [shift, Option.map_some]
    refine ⟨⟨utc, offset⟩, utc, shown, bind?_utc _, ?_⟩
    show some (BoundValue.time (time.toUtc offset).val) = some (BoundValue.time utc.time)
    rw [OffsetDateTime.time_of_ofWallClock? shown]
  · refine ⟨utcShift offset, ?_⟩
    intro session time
    exact ⟨rfl, rfl, time.toUtc_nanosecond offset⟩

/-- The clock at this offset has not reached the year that has begun in UTC. -/
theorem bind?_offsetTime_carry :
    InCalendar (beforeNewYearClock.totalSeconds - beforeNewYear.offset.seconds) ∧
      OffsetDateTime.ofWallClock? beforeNewYearClock beforeNewYear.offset = some beforeNewYear ∧
      bind? .utc (.offsetDateTime beforeNewYear) = some (.dateTime beforeNewYear.utc) ∧
      bind? (.fixed "+01:00" east) (.offsetTime beforeNewYearClock.time beforeNewYear.offset) =
        some (.time beforeNewYear.utc.time) := by
  have inside : InCalendar (beforeNewYearClock.totalSeconds - beforeNewYear.offset.seconds) :=
    ⟨by decide, by decide⟩
  have shown : OffsetDateTime.ofWallClock? beforeNewYearClock beforeNewYear.offset =
      some beforeNewYear := by
    decide
  have bound : bind? .utc (.offsetDateTime beforeNewYear) =
      some (.dateTime beforeNewYear.utc) := by
    decide
  obtain ⟨moment, clock, found, boundMoment, boundTime⟩ :=
    (bind?_offsetTime beforeNewYear.offset).1 (.fixed "+01:00" east) beforeNewYearClock.date
      ⟨beforeNewYearClock.time, by decide⟩ inside
  obtain rfl := Option.some.inj (shown.symm.trans found)
  have sameClock : beforeNewYear.utc = clock :=
    BoundValue.dateTime.inj (Option.some.inj (bound.symm.trans boundMoment))
  rw [sameClock]
  exact ⟨inside, shown, boundMoment, boundTime⟩

end ImpalaAdapter.Temporal
