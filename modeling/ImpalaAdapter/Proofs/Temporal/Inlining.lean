/-
This file compares a value that is bound in a UTC session with the literal of the same value.
-/

import ImpalaAdapter.Proofs.Temporal.Denotation

namespace ImpalaAdapter.Temporal

open Sql

/-- Values without offsets are of three kinds. -/
inductive Kind where
  | date
  | time
  | dateTime
deriving DecidableEq

/-- The kind of a value does not depend on its offset. -/
def Value.kind : Value → Kind
  | .date _ => .date
  | .time _ | .offsetTime .. => .time
  | .localDateTime _ | .offsetDateTime _ | .zonedDateTime .. => .dateTime

/-- The literal of a text depends on the kind of value that the text describes. -/
def kindLiteral (flavor : Flavor) : Kind → String → String
  | .date => flavor.dateLiteral
  | .time => flavor.timeLiteral
  | .dateTime => flavor.timestampLiteral

namespace BoundValue

def kind : BoundValue → Kind
  | .date _ => .date
  | .time _ => .time
  | .dateTime _ => .dateTime

/-- Dates and times are divided by a space in SQL. -/
def sqlText : BoundValue → String
  | .date day => day.text
  | .time clock => clock.text
  | .dateTime moment => moment.sqlText

/-- No clock shows a leap second. -/
def IsPlain : BoundValue → Prop
  | .date _ => True
  | .time clock => clock.nanosecond < 1000000000
  | .dateTime moment => moment.time.nanosecond < 1000000000

end BoundValue

def dayOf? : Expression → Option Int :=
  denoted? "DATE" Reading.date Date.day

/-- The literal denotes the day, the time of day or the moment that is bound. -/
def Denotes (literal : Expression) : BoundValue → Prop
  | .date day => dayOf? literal = some day.day
  | .time clock => timeOf? literal = some clock.totalNanoseconds
  | .dateTime moment => momentOf? literal = some moment.totalNanoseconds

/-- The value on the clocks of UTC. -/
def Value.inUtc : Value → BoundValue
  | .date day => .date day
  | .time clock => .time clock
  | .offsetTime clock offset => .time (clock.toUtc offset)
  | .localDateTime moment => .dateTime moment
  | .offsetDateTime moment | .zonedDateTime moment _ => .dateTime moment.utc

/-- In a UTC session every value has a bound value: no clock is moved out of the calendar. -/
theorem bind?_utc (value : Value) : bind? .utc value = some value.inUtc := by
  have unmoved (moment : LocalDateTime) :
      OffsetDateTime.wallClock? { utc := moment, offset := .utc } = some moment :=
    moment.shift?_zero
  cases value with
  | date | time | offsetTime | localDateTime => rfl
  | offsetDateTime moment | zonedDateTime moment _ =>
      show (OffsetDateTime.wallClock? { utc := moment.utc, offset := .utc }).map
        BoundValue.dateTime = _
      rw [unmoved, Option.map_some]
      rfl

theorem kind_inUtc (value : Value) : value.inUtc.kind = value.kind := by
  cases value <;> rfl

/-- Without a session timezone each literal is the one of the value in UTC. -/
theorem literal?_of_noSession {dialect : Dialect}
    (noSession : dialect.profile.sessionTimezoneVariable = none) (value : Value) :
    literal? dialect value =
      some (.verbatim (kindLiteral dialect.flavor value.kind value.inUtc.sqlText)) := by
  cases value with
  | date | time | localDateTime => rfl
  | offsetTime clock offset =>
      rw [literal?, noSession]
      rfl
  | offsetDateTime moment | zonedDateTime moment _ =>
      rw [literal?, instantLiteral?, noSession]
      rfl

/-- In generic SQL the literal of a value denotes the value, leap seconds aside. -/
theorem denotes_kindLiteral {bound : BoundValue} (plain : bound.IsPlain) :
    Denotes (.verbatim (kindLiteral .generic bound.kind bound.sqlText)) bound := by
  cases bound with
  | date day => exact denoted?_verbatim (Reading.date_text day)
  | time clock => exact denoted?_verbatim (Reading.time_text plain)
  | dateTime moment =>
      exact denoted?_verbatim (Reading.dateTime_sqlText plain (Text.stopsRun_nil _))

/-- A dialect without a session timezone writes the literal of the very value that a UTC session
binds. Read as generic SQL, the literal denotes this value. -/
theorem literal?_eq_bound {dialect : Dialect}
    (noSession : dialect.profile.sessionTimezoneVariable = none) (value : Value) :
    ∃ bound, bind? .utc value = some bound ∧ bound.kind = value.kind ∧
      literal? dialect value =
        some (.verbatim (kindLiteral dialect.flavor value.kind bound.sqlText)) ∧
      (dialect.flavor = .generic → bound.IsPlain →
        Denotes (.verbatim (kindLiteral dialect.flavor value.kind bound.sqlText)) bound) := by
  refine ⟨value.inUtc, bind?_utc value, kind_inUtc value, literal?_of_noSession noSession value, ?_⟩
  intro generic plain
  rw [generic, ← kind_inUtc value]
  exact denotes_kindLiteral plain

/-- This dialect states its name, and all else about it is generic. -/
def ledger : Dialect where
  profile := { name := "ledger", parent := some "sql" }

/-- The leap second at the end of a day. -/
def leapSecond : TimeOfDay :=
  ⟨86399, 1500000000, by decide, by decide⟩

def east : Offset :=
  ⟨3600, by decide, by decide⟩

/-- The first value changes its year on the way to UTC, and the second one leaves a leap second. -/
theorem literal?_eq_bound_ledger :
    ledger.profile.sessionTimezoneVariable = none ∧
      bind? .utc (.zonedDateTime beforeNewYear "Etc/Somewhere") =
        some (.dateTime beforeNewYear.utc) ∧
      literal? ledger (.zonedDateTime beforeNewYear "Etc/Somewhere") =
        some (.verbatim "TIMESTAMP \x272024-01-01 00:00:30.500\x27") ∧
      Denotes (.verbatim "TIMESTAMP \x272024-01-01 00:00:30.500\x27")
        (.dateTime beforeNewYear.utc) ∧
      bind? .utc (.offsetTime leapSecond east) =
        some (.time ⟨82800, 500000000, by decide, by decide⟩) ∧
      literal? ledger (.offsetTime leapSecond east) =
        some (.verbatim "TIME \x2723:00:00.500\x27") := by
  have noSession : ledger.profile.sessionTimezoneVariable = none := rfl
  have bound : bind? .utc (.zonedDateTime beforeNewYear "Etc/Somewhere") =
      some (.dateTime beforeNewYear.utc) := by
    decide
  have boundTime : bind? .utc (.offsetTime leapSecond east) =
      some (.time ⟨82800, 500000000, by decide, by decide⟩) := by
    decide
  obtain ⟨moment, found, _, literal, denotes⟩ :=
    literal?_eq_bound noSession (.zonedDateTime beforeNewYear "Etc/Somewhere")
  obtain ⟨clock, foundClock, _, literalClock, _⟩ :=
    literal?_eq_bound noSession (.offsetTime leapSecond east)
  obtain rfl := Option.some.inj (bound.symm.trans found)
  obtain rfl := Option.some.inj (boundTime.symm.trans foundClock)
  have plain : (BoundValue.dateTime beforeNewYear.utc).IsPlain := by
    show beforeNewYear.utc.time.nanosecond < 1000000000
    decide
  exact ⟨noSession, bound, literal, denotes rfl plain, boundTime, literalClock⟩

end ImpalaAdapter.Temporal
