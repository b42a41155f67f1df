/-
This file shows that a moment is bound by its instant alone: its own offset and zone cancel out.
-/

import ImpalaAdapter.Proofs.Number.NumeralOrder
import ImpalaAdapter.Proofs.Temporal.Inlining

namespace ImpalaAdapter.Temporal

/-- An instant is a second of UTC and the nanoseconds after its start. A leap second has no second
of its own: its nanoseconds go on after a billion. -/
structure Instant where
  second : Int
  nanosecond : Nat
deriving DecidableEq

/-- The second decides first, and then the nanosecond. -/
def Instant.compare (first second : Instant) : Ordering :=
  (Ord.compare first.second second.second).then (Ord.compare first.nanosecond second.nanosecond)

namespace LocalDateTime

/-- The instant at which a clock with the offset shows the date-time. -/
def instantAt (wallClock : LocalDateTime) (offset : Offset) : Instant where
  second := wallClock.totalSeconds - offset.seconds
  nanosecond := wallClock.time.nanosecond

/-- Date-times are compared by day, then by second of the day, and then by nanosecond. -/
def compare (first second : LocalDateTime) : Ordering :=
  (Ord.compare first.date.day second.date.day).then
    ((Ord.compare first.time.second second.time.second).then
      (Ord.compare first.time.nanosecond second.time.nanosecond))

variable (first second : LocalDateTime) (offset : Offset)

/-- One clock shows date-times in the order of the instants, because its offset cancels out and no
second of a day reaches into the next day. -/
theorem compare_instantAt :
    (first.instantAt offset).compare (second.instantAt offset) = first.compare second := by
  have firstInside := first.time.second_lt
  have secondInside := second.time.second_lt
  apply ordering_ext
  · simp only [compare, Instant.compare, instantAt, totalSeconds, Ordering.then_eq_lt,
      Int.compare_eq_lt, Int.compare_eq_eq, Nat.compare_eq_lt, Nat.compare_eq_eq]
    omega
  · simp only [compare, Instant.compare, instantAt, totalSeconds, Ordering.then_eq_gt,
      Int.compare_eq_gt, Int.compare_eq_eq, Nat.compare_eq_gt, Nat.compare_eq_eq]
    omega

variable {first second offset}

/-- A clock shows each date-time at one instant. -/
theorem instantAt_inj : first.instantAt offset = second.instantAt offset ↔ first = second := by
  constructor
  · intro same
    have seconds := congrArg Instant.second same
    apply ext_total
    · simp only [instantAt] at seconds
      omega
    · exact congrArg Instant.nanosecond same
  · rintro rfl
    rfl

/-- A shift by an offset gives the date-time that the clock shows at the same instant. -/
theorem shift?_offset {utc wallClock : LocalDateTime} :
    utc.shift? offset.seconds = some wallClock ↔
      wallClock.instantAt offset = utc.instantAt .utc := by
  rw [shift?_eq_some_iff]
  simp only [instantAt, Instant.mk.injEq, Offset.utc]
  omega

end LocalDateTime

namespace OffsetDateTime

def instant (moment : OffsetDateTime) : Instant :=
  moment.utc.instantAt .utc

variable {moment : OffsetDateTime}

/-- A moment that was read from a clock has the instant at which the clock showed it. -/
theorem instant_of_ofWallClock? {wallClock : LocalDateTime} {offset : Offset}
    (shown : ofWallClock? wallClock offset = some moment) :
    moment.instant = wallClock.instantAt offset := by
  obtain ⟨utc, shift, rfl⟩ := Option.map_eq_some_iff.mp shown
  obtain ⟨total, nanosecond⟩ := LocalDateTime.shift?_eq_some_iff.mp shift
  rw [instant, LocalDateTime.instantAt, LocalDateTime.instantAt, Instant.mk.injEq]
  refine ⟨?_, nanosecond⟩
  simp only [Offset.utc]
  omega

end OffsetDateTime

/-- The moment of a value with an offset or in a zone. -/
def Value.moment? : Value → Option OffsetDateTime
  | .offsetDateTime moment | .zonedDateTime moment _ => some moment
  | _ => none

section
variable {session : SessionZone} {value : Value} {moment : OffsetDateTime}

/-- The session sees nothing but the moment on the UTC clock. -/
theorem bind?_moment (found : value.moment? = some moment) :
    bind? session value =
      (moment.utc.shift? (session.offsetAt moment.utc).seconds).map .dateTime := by
  cases value with
  | offsetDateTime | zonedDateTime =>
      cases found
      rfl
  | _ => cases found

/-- The bound date-time is the one that the clock of the session shows at the instant. -/
theorem bind?_eq_some_iff (found : value.moment? = some moment) {bound : BoundValue} :
    bind? session value = some bound ↔
      ∃ wallClock : LocalDateTime, bound = .dateTime wallClock ∧
        wallClock.instantAt (session.offsetAt moment.utc) = moment.instant := by
  rw [bind?_moment found, Option.map_eq_some_iff, OffsetDateTime.instant]
  simp only [LocalDateTime.shift?_offset]
  constructor
  · intro shift
    obtain ⟨wallClock, shown, rfl⟩ := shift
    exact ⟨wallClock, rfl, shown⟩
  · intro clock
    obtain ⟨wallClock, rfl, shown⟩ := clock
    exact ⟨wallClock, shown, rfl⟩

end

/-- Two values of one instant are bound to one date-time, whatever their own offsets and zones are:
the one that the clock of the session shows at the instant, when the calendar has it. While the
session keeps its offset, bound date-times are ordered as the instants. -/
theorem bind?_instant (session : SessionZone) (first second : Value)
    (firstMoment secondMoment : OffsetDateTime)
    (isFirst : first.moment? = some firstMoment) (isSecond : second.moment? = some secondMoment) :
    (∀ wallClock offset, OffsetDateTime.ofWallClock? wallClock offset = some firstMoment →
      firstMoment.instant = wallClock.instantAt offset) ∧
    (firstMoment.instant = secondMoment.instant → bind? session first = bind? session second) ∧
    (∀ bound, bind? session first = some bound ↔
      ∃ wallClock, bound = .dateTime wallClock ∧
        wallClock.instantAt (session.offsetAt firstMoment.utc) = firstMoment.instant) ∧
    ((∀ instant other, session.offsetAt instant = session.offsetAt other) →
      ∀ firstClock secondClock, bind? session first = some (.dateTime firstClock) →
        bind? session second = some (.dateTime secondClock) →
          firstClock.compare secondClock = firstMoment.instant.compare secondMoment.instant ∧
          (firstClock = secondClock ↔ firstMoment.instant = secondMoment.instant)) := by
  refine ⟨?_, ?_, ?_, ?_⟩
  · intro wallClock offset shown
    exact OffsetDateTime.instant_of_ofWallClock? shown
  · intro same
    have utc : firstMoment.utc = secondMoment.utc := LocalDateTime.instantAt_inj.mp same
    rw [bind?_moment isFirst, bind?_moment isSecond, utc]
  · intro bound
    exact bind?_eq_some_iff isFirst
  · intro constant firstClock secondClock firstBound secondBound
    obtain ⟨_, ⟨⟩, firstShown⟩ := (bind?_eq_some_iff isFirst).mp firstBound
    obtain ⟨_, ⟨⟩, secondShown⟩ := (bind?_eq_some_iff isSecond).mp secondBound
    rw [constant secondMoment.utc firstMoment.utc] at secondShown
    rw [← firstShown, ← secondShown]
    exact ⟨(LocalDateTime.compare_instantAt ..).symm, LocalDateTime.instantAt_inj.symm⟩

/-- The same instant on a clock that has reached the year. -/
def newYearEast : OffsetDateTime :=
  { beforeNewYear with offset := east }

/-- The leap second at the end of the first day of the year. -/
def newYearLeap : OffsetDateTime :=
  { beforeNewYear with utc := ⟨beforeNewYear.utc.date, leapSecond⟩ }

def halfPastNine : Offset :=
  ⟨-34200, by decide, by decide⟩

/-- The clock of this session is put forward at the second of the instant. -/
def marquesas : SessionZone :=
  .switching "Pacific/Marquesas" ⟨-36000, by decide, by decide⟩ [(1704067230, halfPastNine)]

def oldYearClock : LocalDateTime :=
  ⟨beforeNewYearClock.date, { beforeNewYear.utc.time with second := 52230, second_lt := by decide }⟩

def leapClock : LocalDateTime :=
  ⟨beforeNewYear.utc.date, { leapSecond with second := 52199, second_lt := by decide }⟩

theorem bind?_instant_newYear :
    ((Value.offsetDateTime beforeNewYear).moment? = some beforeNewYear ∧
        (Value.zonedDateTime newYearEast "Europe/Paris").moment? = some newYearEast ∧
        OffsetDateTime.ofWallClock? beforeNewYearClock beforeNewYear.offset = some beforeNewYear ∧
        beforeNewYear.instant = newYearEast.instant) ∧
      beforeNewYear.instant = beforeNewYearClock.instantAt beforeNewYear.offset ∧
      bind? marquesas (.offsetDateTime beforeNewYear) =
        bind? marquesas (.zonedDateTime newYearEast "Europe/Paris") ∧
      bind? marquesas (.offsetDateTime beforeNewYear) = some (.dateTime oldYearClock) ∧
      oldYearClock.compare leapClock = beforeNewYear.instant.compare newYearLeap.instant := by
  have sameInstant : beforeNewYear.instant = newYearEast.instant := rfl
  have shown : OffsetDateTime.ofWallClock? beforeNewYearClock beforeNewYear.offset =
      some beforeNewYear := by
    decide
  obtain ⟨own, together, bound, _⟩ := bind?_instant marquesas (.offsetDateTime beforeNewYear)
    (.zonedDateTime newYearEast "Europe/Paris") beforeNewYear newYearEast rfl rfl
  obtain ⟨_, _, _, ordered⟩ := bind?_instant (.fixed "-09:30" halfPastNine)
    (.offsetDateTime beforeNewYear) (.offsetDateTime newYearLeap) beforeNewYear newYearLeap rfl rfl
  refine ⟨⟨rfl, rfl, shown, sameInstant⟩, own _ _ shown, together sameInstant, ?_, ?_⟩
  · exact (bound _).mpr ⟨oldYearClock, rfl, by decide⟩
  · have constant := ordered (fun _ _ => rfl)
    exact (constant oldYearClock leapClock (by decide) (by decide)).1

end ImpalaAdapter.Temporal
