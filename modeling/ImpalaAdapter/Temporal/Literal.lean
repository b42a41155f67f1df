/-
This file writes temporal values as SQL literals.
-/

import ImpalaAdapter.Sql.Dialect
import ImpalaAdapter.Temporal.Binding

namespace ImpalaAdapter.Temporal

open Sql

/-- Dates and times are divided by a space in SQL. -/
def LocalDateTime.sqlText (moment : LocalDateTime) : String :=
  moment.text ' '

/-- The server moves the text from its own zone to the zone of the session. -/
def convertTimezone (text source sessionVariable : String) : Expression :=
  .call "convert_timezone" [.string text, .string source, .verbatim sessionVariable]

/-- The server converts an instant when the dialect has a session timezone, and otherwise the
literal is in UTC. -/
def instantLiteral? (dialect : Dialect) (moment : OffsetDateTime) (source : String) :
    Option Expression :=
  match dialect.profile.sessionTimezoneVariable with
  | some sessionVariable =>
      moment.wallClock?.map fun wallClock =>
        convertTimezone wallClock.sqlText source sessionVariable
  | none => some (.verbatim (dialect.flavor.timestampLiteral moment.utc.sqlText))

/-- There is no literal when the wall clock of an instant leaves the calendar. -/
def literal? (dialect : Dialect) : Value → Option Expression
  | .date date => some (.verbatim (dialect.flavor.dateLiteral date.text))
  | .time time => some (.verbatim (dialect.flavor.timeLiteral time.text))
  | .offsetTime time offset =>
      some (match dialect.profile.sessionTimezoneVariable with
        | some sessionVariable => convertTimezone time.text offset.label sessionVariable
        | none => .verbatim (dialect.flavor.timeLiteral (time.toUtc offset).text))
  | .localDateTime moment => some (.verbatim (dialect.flavor.timestampLiteral moment.sqlText))
  | .offsetDateTime moment => instantLiteral? dialect moment moment.offset.label
  | .zonedDateTime moment zone => instantLiteral? dialect moment zone

end ImpalaAdapter.Temporal
