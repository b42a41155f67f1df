/-
This file shows that names, strings and zones cannot reach past their quotes.
-/

import ImpalaAdapter.Proofs.Sql.Piece
import ImpalaAdapter.Proofs.Temporal.Inlining

namespace ImpalaAdapter.Temporal

open Sql Text

/-- After its opening quote a quoted text is scanned up to its own closing quote. -/
theorem scanQuoted_quoted (quote : Char) (text : String) {rest : List Char}
    (other : rest.head? ≠ some quote) :
    ∃ opened, (quoted quote text).toList ++ rest = quote :: opened ∧
      scanQuoted quote opened = some (text.toList, rest) := by
  have stops : StopsRun (· == quote) rest := by
    intro character first
    rw [beq_eq_false_iff_ne]
    intro same
    exact other (same ▸ first)
  refine ⟨doubled quote text.toList ++ quote :: rest, ?_, scanQuoted_doubled quote _ _ stops⟩
  simp

/-- The literal of a text holds the text as its only string. -/
theorem stringContents_kindLiteral (flavor : Flavor) (kind : Kind) (text : String) :
    stringContents (kindLiteral flavor kind text).toList = some [text.toList] := by
  have between (before after : String) (isBefore : before.toList.all (!isQuote ·))
      (isAfter : after.toList.all (!isQuote ·)) :
      stringContents (before ++ quotedString text ++ after).toList = some [text.toList] := by
    have letters : (before ++ quotedString text ++ after).toList =
        before.toList ++ (stringQuote :: doubled stringQuote text.toList ++
          stringQuote :: after.toList) := by
      simp [quotedString]
    rw [letters, stringContents_between isBefore isAfter]
  have last (before : String) (isBefore : before.toList.all (!isQuote ·)) :
      stringContents (before ++ quotedString text).toList = some [text.toList] := by
    simpa using between before "" isBefore (by decide)
  cases kind with
  | date => exact last "DATE " (by decide)
  | time =>
      cases flavor with
      | generic => exact last "TIME " (by decide)
      | impala =>
          show stringContents (quotedString text).toList = some [text.toList]
          simpa using last "" (by decide)
  | dateTime =>
      cases flavor with
      | generic => exact last "TIMESTAMP " (by decide)
      | impala => exact between "CAST(" " AS TIMESTAMP)" (by decide) (by decide)

/-- The text and the source are one argument each, whatever quotes they hold. -/
theorem readCall_convertTimezone (flavor : Flavor) (text source sessionVariable : String) :
    readCall ((convertTimezone text source sessionVariable).text flavor) =
      (closedArguments (sessionVariable.toList ++ [')'])).map fun last =>
        ("convert_timezone".toList,
          [.quoted stringQuote text.toList] :: [.quoted stringQuote source.toList] :: last) := by
  have letters : (convertTimezone text source sessionVariable).text flavor =
      "convert_timezone".toList ++ '(' ::
        (stringQuote :: doubled stringQuote text.toList ++ stringQuote :: ',' :: ' ' ::
          (stringQuote :: doubled stringQuote source.toList ++ stringQuote :: ',' :: ' ' ::
            (sessionVariable.toList ++ [')']))) := by
    simp [convertTimezone, Expression.text_call, Expression.argumentText, Expression.furtherText,
      Expression.text_string, Expression.text_verbatim]
  rw [letters, readCall_append (by decide), closedArguments_string, closedArguments_space,
    closedArguments_string, closedArguments_space, Option.map_map, Option.map_map]
  rfl

theorem literal?_zonedDateTime {dialect : Dialect} {sessionVariable : String}
    (session : dialect.profile.sessionTimezoneVariable = some sessionVariable)
    {moment : OffsetDateTime} {wallClock : LocalDateTime}
    (shown : moment.wallClock? = some wallClock) (zone : String) :
    literal? dialect (.zonedDateTime moment zone) =
      some (convertTimezone wallClock.sqlText zone sessionVariable) := by
  rw [literal?, instantLiteral?, session, shown]
  rfl

/-- Identifiers and strings end at their own closing quotes, whatever they hold. So the zone of a
moment is the second argument of its conversion and reaches into no other one, and each literal of
a text holds the text as its only string. -/
theorem quoted_delimits :
    (∀ (style : QuoteStyle) (name : String) (rest : List Char), rest.head? ≠ some style.mark →
      ∃ opened, (style.identifier name).toList ++ rest = style.mark :: opened ∧
        scanQuoted style.mark opened = some (name.toList, rest)) ∧
    (∀ (text : String) (rest : List Char), rest.head? ≠ some stringQuote →
      ∃ opened, (quotedString text).toList ++ rest = stringQuote :: opened ∧
        scanQuoted stringQuote opened = some (text.toList, rest)) ∧
    (∀ (moment : OffsetDateTime) (wallClock : LocalDateTime), moment.wallClock? = some wallClock →
      ∀ zone : String,
        (∃ literal, literal? Flavor.impala.dialect (.zonedDateTime moment zone) = some literal ∧
          ∀ flavor, readCall (literal.sql flavor).toList =
            some ("convert_timezone".toList,
              [[.quoted stringQuote wallClock.sqlText.toList], [.quoted stringQuote zone.toList],
                "@@time_zone".toList.map .bare])) ∧
        ∀ (dialect : Dialect) (sessionVariable : String),
          dialect.profile.sessionTimezoneVariable = some sessionVariable →
          ∃ literal, literal? dialect (.zonedDateTime moment zone) = some literal ∧
            ∀ flavor, readCall (literal.sql flavor).toList =
              (closedArguments (sessionVariable.toList ++ [')'])).map fun last =>
                ("convert_timezone".toList, [.quoted stringQuote wallClock.sqlText.toList] ::
                  [.quoted stringQuote zone.toList] :: last)) ∧
    ∀ (flavor : Flavor) (kind : Kind) (text : String),
      stringContents (kindLiteral flavor kind text).toList = some [text.toList] := by
  refine ⟨?_, ?_, ?_, stringContents_kindLiteral⟩
  · intro style name rest other
    exact scanQuoted_quoted style.mark name other
  · intro text rest other
    exact scanQuoted_quoted stringQuote text other
  · intro moment wallClock shown zone
    constructor
    · have session : Flavor.impala.dialect.profile.sessionTimezoneVariable =
          some "@@time_zone" := rfl
      refine ⟨_, literal?_zonedDateTime session shown zone, ?_⟩
      intro flavor
      have call := readCall_convertTimezone flavor wallClock.sqlText zone "@@time_zone"
      rwa [closedArguments_bare (by decide)] at call
    · intro dialect sessionVariable session
      refine ⟨_, literal?_zonedDateTime session shown zone, ?_⟩
      intro flavor
      exact readCall_convertTimezone flavor wallClock.sqlText zone sessionVariable

/-- The text of this zone would close the call if its quotes were not doubled. -/
def forgedZone : String :=
  "\x27Etc\x27\x27/UTC\x27, now()) -- \x27"

/-- This dialect names a variable of its own for the timezone of a session. -/
def zonedLedger : Dialect where
  profile := { ledger.profile with sessionTimezoneVariable := some "@@session.tz" }

theorem quoted_delimits_forgedZone :
    (['.'].head? ≠ some QuoteStyle.backtick.mark ∧ [')'].head? ≠ some stringQuote ∧
      beforeNewYear.wallClock? = some beforeNewYearClock ∧
      zonedLedger.profile.sessionTimezoneVariable = some "@@session.tz") ∧
      (∃ opened, (QuoteStyle.backtick.identifier "\x60a\x60\x60").toList ++ ['.'] = '\x60' :: opened ∧
        scanQuoted '\x60' opened = some ("\x60a\x60\x60".toList, ['.'])) ∧
      (∃ opened, (quotedString forgedZone).toList ++ [')'] = stringQuote :: opened ∧
        scanQuoted stringQuote opened = some (forgedZone.toList, [')'])) ∧
      (∃ literal, literal? Flavor.impala.dialect (.zonedDateTime beforeNewYear forgedZone) =
          some literal ∧
        readCall (literal.sql .generic).toList =
          some ("convert_timezone".toList,
            [[.quoted stringQuote "2023-12-31 23:59:15.500".toList],
              [.quoted stringQuote forgedZone.toList], "@@time_zone".toList.map .bare])) ∧
      ∃ literal, literal? zonedLedger (.zonedDateTime beforeNewYear forgedZone) = some literal ∧
        readCall (literal.sql .impala).toList =
          some ("convert_timezone".toList,
            [[.quoted stringQuote "2023-12-31 23:59:15.500".toList],
              [.quoted stringQuote forgedZone.toList], "@@session.tz".toList.map .bare]) := by
  have noBacktick : ['.'].head? ≠ some QuoteStyle.backtick.mark := by decide
  have noApostrophe : [')'].head? ≠ some stringQuote := by decide
  have shown : beforeNewYear.wallClock? = some beforeNewYearClock := by decide
  have session : zonedLedger.profile.sessionTimezoneVariable = some "@@session.tz" := rfl
  obtain ⟨three, general⟩ :=
    quoted_delimits.2.2.1 beforeNewYear beforeNewYearClock shown forgedZone
  obtain ⟨literal, written, read⟩ := three
  obtain ⟨custom, writtenCustom, readCustom⟩ := general zonedLedger "@@session.tz" session
  have readLast := readCustom .impala
  rw [closedArguments_bare (by decide)] at readLast
  exact ⟨⟨noBacktick, noApostrophe, shown, session⟩,
    quoted_delimits.1 .backtick "\x60a\x60\x60" ['.'] noBacktick,
    quoted_delimits.2.1 forgedZone [')'] noApostrophe, ⟨literal, written, read .generic⟩,
    custom, writtenCustom, readLast⟩

end ImpalaAdapter.Temporal
