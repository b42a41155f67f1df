/-
This file compares the moments that the literals of one value denote in the two dialects.
-/

import ImpalaAdapter.Proofs.Temporal.Reading
import ImpalaAdapter.Proofs.Temporal.Shift
import Mathlib.Data.Int.ModEq

namespace ImpalaAdapter.Temporal

open Sql

/-- The nanoseconds of a moment since the start of the day count. -/
def LocalDateTime.totalNanoseconds (moment : LocalDateTime) : Int :=
  moment.totalSeconds * 1000000000 + moment.time.nanosecond

/-- The nanoseconds of a time since midnight. -/
def TimeOfDay.totalNanoseconds (time : TimeOfDay) : Int :=
  time.second * 1000000000 + time.nanosecond

def nanosecondsPerDay : Int := 86400 * 1000000000

section
variable {Value : Type} (typeName : String) (reader : Reader Value) (position : Value → Int)

/-- The position on the UTC clock that a literal denotes. A converted text is on the clock of the
offset that its source names. A quoted text after the name of its type is in UTC. -/
def denoted? : Expression → Option Int
  | .call name [.string text, .string source, _] =>
      if name = "convert_timezone" then do
        let value ← Reading.whole reader text.toList
        let minutes ← Reading.whole Reading.offsetMinutes source.toList
        some (position value - minutes * 60 * 1000000000)
      else none
  | .verbatim sql => do
      let opening ← Reader.skip typeName sql.toList
      let quoted ← Reader.skip " \x27" opening
      let content ← Reading.whole (Text.scanQuoted stringQuote) quoted
      (Reading.whole reader content).map position
  | _ => none

variable {typeName reader position} {value : Value} {text : String}

/-- A converted text is moved by the whole minutes of its offset. -/
theorem denoted?_convertTimezone (read : reader (text.toList ++ []) = some (value, []))
    (offset : Offset) (sessionVariable : String) :
    denoted? typeName reader position (convertTimezone text offset.label sessionVariable) =
      some (position value - offset.wholeMinutes * 60 * 1000000000) := by
  have label := Reading.offsetMinutes_label offset []
  rw [List.append_nil] at read label
  simp only [convertTimezone, denoted?, if_true, Reading.whole, read, label, Option.bind_eq_bind,
    Option.bind_some]

theorem denoted?_verbatim (read : reader (text.toList ++ []) = some (value, [])) :
    denoted? typeName reader position (.verbatim (typeName ++ " " ++ quotedString text)) =
      some (position value) := by
  have opening : (typeName ++ " " ++ quotedString text).toList =
      typeName.toList ++
        (" \x27".toList ++ (Text.doubled stringQuote text.toList ++ [stringQuote])) := by
    simp [quotedString, stringQuote]
  have content := Text.scanQuoted_doubled stringQuote text.toList [] (Text.stopsRun_nil _)
  rw [List.append_nil] at read
  simp only [denoted?, opening, Reader.skip_append, Reading.whole, content, read,
    Option.bind_eq_bind, Option.bind_some, Option.map_some]

end

def momentOf? : Expression → Option Int :=
  denoted? "TIMESTAMP" Reading.dateTime LocalDateTime.totalNanoseconds

def timeOf? : Expression → Option Int :=
  denoted? "TIME" Reading.time TimeOfDay.totalNanoseconds

theorem OffsetDateTime.totalNanoseconds_wallClock {moment : OffsetDateTime}
    {wallClock : LocalDateTime} (inside : moment.wallClock? = some wallClock) :
    wallClock.totalNanoseconds =
      moment.utc.totalNanoseconds + moment.offset.seconds * 1000000000 := by
  obtain ⟨total, nanosecond⟩ := LocalDateTime.shift?_eq_some_iff.mp inside
  rw [LocalDateTime.totalNanoseconds, LocalDateTime.totalNanoseconds, total, nanosecond]
  omega

theorem TimeOfDay.totalNanoseconds_toUtc {time : TimeOfDay}
    (plain : time.nanosecond < 1000000000) (offset : Offset) :
    time.totalNanoseconds ≡ (time.toUtc offset).totalNanoseconds + offset.seconds * 1000000000
      [ZMOD nanosecondsPerDay] := by
  have second := toUtc_second plain offset
  simp only [Int.ModEq, nanosecondsPerDay, TimeOfDay.totalNanoseconds, toUtc_nanosecond plain,
    second]
  omega

/-- The converted literal of a moment is off by the seconds that the label drops. -/
theorem momentOf?_offsetDateTime {moment : OffsetDateTime} {wallClock : LocalDateTime}
    (plain : moment.utc.time.nanosecond < 1000000000)
    (inside : moment.wallClock? = some wallClock) :
    momentOf? (convertTimezone wallClock.sqlText moment.offset.label "@@time_zone") =
      some (moment.utc.totalNanoseconds + moment.offset.droppedSeconds * 1000000000) := by
  have nanosecond := (LocalDateTime.shift?_eq_some_iff.mp inside).2
  have read := Reading.dateTime_sqlText (nanosecond ▸ plain) (Text.stopsRun_nil _)
  have shown : wallClock.totalNanoseconds - moment.offset.wholeMinutes * 60 * 1000000000 =
      moment.utc.totalNanoseconds + moment.offset.droppedSeconds * 1000000000 := by
    have offset := moment.offset.seconds_eq
    rw [OffsetDateTime.totalNanoseconds_wallClock inside]
    omega
  rw [momentOf?, denoted?_convertTimezone read, shown]

/-- Around the clock, the converted literal of a time is off by the seconds that the label
drops. -/
theorem timeOf?_offsetTime {time : TimeOfDay} (plain : time.nanosecond < 1000000000)
    (offset : Offset) :
    ∃ shown, timeOf? (convertTimezone time.text offset.label "@@time_zone") = some shown ∧
      shown ≡ (time.toUtc offset).totalNanoseconds + offset.droppedSeconds * 1000000000
        [ZMOD nanosecondsPerDay] := by
  refine ⟨_, denoted?_convertTimezone (Reading.time_text plain) offset "@@time_zone", ?_⟩
  have around := TimeOfDay.totalNanoseconds_toUtc plain offset
  have whole := offset.seconds_eq
  simp only [Int.ModEq, nanosecondsPerDay] at around ⊢
  omega

/-- The literals of an offset value denote one moment exactly when the offset has whole minutes.
Otherwise the converted literal is late by the seconds that its label drops, or early when the
offset is negative. Times are compared around the clock. -/
theorem literal?_dialects_agree_iff :
    (∀ (moment : OffsetDateTime) (wallClock : LocalDateTime),
      moment.utc.time.nanosecond < 1000000000 → moment.wallClock? = some wallClock →
      let converted : Expression := .call "convert_timezone"
        [.string wallClock.sqlText, .string moment.offset.label, .verbatim "@@time_zone"]
      let inUtc : Expression := .verbatim ("TIMESTAMP " ++ quotedString moment.utc.sqlText)
      literal? Flavor.impala.dialect (.offsetDateTime moment) = some converted ∧
        literal? Flavor.generic.dialect (.offsetDateTime moment) = some inUtc ∧
        ∃ shown, momentOf? converted = some shown ∧
          momentOf? inUtc = some moment.utc.totalNanoseconds ∧
          (shown = moment.utc.totalNanoseconds ↔ 60 ∣ moment.offset.seconds) ∧
          shown = moment.utc.totalNanoseconds + moment.offset.droppedSeconds * 1000000000) ∧
    (∀ (time : TimeOfDay) (offset : Offset), time.nanosecond < 1000000000 →
      let converted : Expression := .call "convert_timezone"
        [.string time.text, .string offset.label, .verbatim "@@time_zone"]
      let inUtc : Expression := .verbatim ("TIME " ++ quotedString (time.toUtc offset).text)
      literal? Flavor.impala.dialect (.offsetTime time offset) = some converted ∧
        literal? Flavor.generic.dialect (.offsetTime time offset) = some inUtc ∧
        ∃ shown utcTime, timeOf? converted = some shown ∧ timeOf? inUtc = some utcTime ∧
          (shown ≡ utcTime [ZMOD nanosecondsPerDay] ↔ 60 ∣ offset.seconds) ∧
          shown ≡ utcTime + offset.droppedSeconds * 1000000000 [ZMOD nanosecondsPerDay]) := by
  constructor
  · intro moment wallClock plain inside
    have converted : literal? Flavor.impala.dialect (.offsetDateTime moment) =
        some (convertTimezone wallClock.sqlText moment.offset.label "@@time_zone") := by
      show moment.wallClock?.map _ = _
      rw [inside, Option.map_some]
    have read := Reading.dateTime_sqlText plain (Text.stopsRun_nil _)
    have dropped := moment.offset.droppedSeconds_eq_zero_iff
    refine ⟨converted, rfl, _, momentOf?_offsetDateTime plain inside, denoted?_verbatim read,
      ?_, rfl⟩
    omega
  · intro time offset plain
    obtain ⟨shown, denoted, around⟩ := timeOf?_offsetTime plain offset
    have utcPlain : (time.toUtc offset).nanosecond < 1000000000 := by
      rw [TimeOfDay.toUtc_nanosecond plain]
      exact plain
    have dropped := offset.droppedSeconds_eq_zero_iff
    have short := offset.droppedSeconds_bounds
    refine ⟨rfl, rfl, shown, _, denoted, denoted?_verbatim (Reading.time_text utcPlain), ?_,
      around⟩
    simp only [Int.ModEq, nanosecondsPerDay] at around ⊢
    omega

/-- The first half minute of a year, on a clock that has not reached the year. -/
def beforeNewYear : OffsetDateTime where
  utc := ⟨⟨dayNumber 2024 1 1, by decide, by decide⟩, ⟨30, 500000000, by decide, by decide⟩⟩
  offset := ⟨-75, by decide, by decide⟩

def beforeNewYearClock : LocalDateTime :=
  ⟨⟨dayNumber 2023 12 31, by decide, by decide⟩, ⟨86355, 500000000, by decide, by decide⟩⟩

/-- The label of the clock says one minute, so the converted literal is a quarter minute early. -/
theorem literal?_beforeNewYear :
    (beforeNewYear.utc.time.nanosecond < 1000000000 ∧
        beforeNewYear.wallClock? = some beforeNewYearClock) ∧
      literal? Flavor.impala.dialect (.offsetDateTime beforeNewYear) =
        some (convertTimezone "2023-12-31 23:59:15.500" "-00:01" "@@time_zone") ∧
      literal? Flavor.generic.dialect (.offsetDateTime beforeNewYear) =
        some (.verbatim "TIMESTAMP \x272024-01-01 00:00:30.500\x27") ∧
      momentOf? (convertTimezone "2023-12-31 23:59:15.500" "-00:01" "@@time_zone") =
        some (beforeNewYear.utc.totalNanoseconds - 15 * 1000000000) ∧
      ∃ shown utcTime,
        timeOf? (convertTimezone "00:00:30.500" "-00:01" "@@time_zone") = some shown ∧
        timeOf? (.verbatim "TIME \x2700:01:45.500\x27") = some utcTime ∧
        ¬ shown ≡ utcTime [ZMOD nanosecondsPerDay] := by
  have plain : beforeNewYear.utc.time.nanosecond < 1000000000 := by decide
  have inside : beforeNewYear.wallClock? = some beforeNewYearClock := by decide
  obtain ⟨converted, inUtc, shown, denoted, _, _, early⟩ :=
    literal?_dialects_agree_iff.1 beforeNewYear beforeNewYearClock plain inside
  obtain ⟨_, _, shownTime, utcTime, denotedTime, denotedUtc, agree, _⟩ :=
    literal?_dialects_agree_iff.2 beforeNewYear.utc.time beforeNewYear.offset plain
  refine ⟨⟨plain, inside⟩, converted, inUtc, ?_, shownTime, utcTime, denotedTime, denotedUtc, ?_⟩
  · rw [early] at denoted
    exact denoted
  · rw [agree]
    decide

end ImpalaAdapter.Temporal
