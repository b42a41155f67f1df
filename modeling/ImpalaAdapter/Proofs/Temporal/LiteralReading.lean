/-
This file reads literals back: the text inside a literal has every field of the value.
-/

import ImpalaAdapter.Proofs.Temporal.Delimitation

namespace ImpalaAdapter.Temporal

open Sql

/-- A value without an offset is bound as it is. -/
def BoundValue.value : BoundValue → Value
  | .date day => .date day
  | .time clock => .time clock
  | .dateTime moment => .localDateTime moment

/-- The text inside a literal is its only string. -/
def literalText? (sql : String) : Option (List Char) :=
  match stringContents sql.toList with
  | some [content] => some content
  | _ => none

namespace Kind

/-- The reader of a kind leaves nothing of the text over. -/
def read? (kind : Kind) (text : List Char) : Option BoundValue :=
  match kind with
  | .date => (Reading.whole Reading.date text).map .date
  | .time => (Reading.whole Reading.time text).map .time
  | .dateTime => (Reading.whole Reading.dateTime text).map .dateTime

def readLiteral? (kind : Kind) (sql : String) : Option BoundValue :=
  (literalText? sql).bind kind.read?

end Kind

/-- The literal of a text holds the text, in whatever flavor it is spelled. -/
theorem literalText?_kindLiteral (flavor spelling : Flavor) (kind : Kind) (text : String) :
    literalText? ((Expression.verbatim (kindLiteral flavor kind text)).sql spelling) =
      some text.toList := by
  unfold literalText?
  rw [Expression.sql_verbatim, stringContents_kindLiteral]

theorem Reading.whole_of_read {Value : Type} {reader : Reader Value} {text : List Char}
    {value : Value} (read : reader (text ++ []) = some (value, [])) :
    whole reader text = some value := by
  rw [List.append_nil] at read
  unfold whole
  rw [read]

namespace BoundValue

variable (dialect : Dialect) {bound : BoundValue}

/-- The text of each kind is read back by the reader of that kind. -/
theorem read?_sqlText (plain : bound.IsPlain) :
    bound.kind.read? bound.sqlText.toList = some bound := by
  cases bound with
  | date day =>
      show (Reading.whole Reading.date day.text.toList).map BoundValue.date = _
      rw [Reading.whole_of_read (Reading.date_text day), Option.map_some]
  | time clock =>
      show (Reading.whole Reading.time clock.text.toList).map BoundValue.time = _
      rw [Reading.whole_of_read (Reading.time_text plain), Option.map_some]
  | dateTime moment =>
      have read := Reading.dateTime_sqlText plain (Text.stopsRun_nil _)
      show (Reading.whole Reading.dateTime moment.sqlText.toList).map BoundValue.dateTime = _
      rw [Reading.whole_of_read read, Option.map_some]

/-- A value without an offset has the literal of its own text in every dialect. -/
theorem literal?_value :
    literal? dialect bound.value =
      some (.verbatim (kindLiteral dialect.flavor bound.kind bound.sqlText)) := by
  cases bound <;> rfl

theorem readLiteral?_kindLiteral (flavor spelling : Flavor) (plain : bound.IsPlain) :
    bound.kind.readLiteral?
      ((Expression.verbatim (kindLiteral flavor bound.kind bound.sqlText)).sql spelling) =
        some bound := by
  unfold Kind.readLiteral?
  rw [literalText?_kindLiteral, Option.bind_some]
  exact read?_sqlText plain

end BoundValue

/-- The text inside the literal of a date, a time or a date-time has every field of the value, leap
seconds aside. So no other value of the kind has the same SQL in the dialect. -/
theorem readLiteral?_literal? (dialect : Dialect) (bound : BoundValue) (plain : bound.IsPlain) :
    ∃ literal, literal? dialect bound.value = some literal ∧
      (∀ flavor, bound.kind.readLiteral? (literal.sql flavor) = some bound) ∧
      ∀ other : BoundValue, other.IsPlain → other.kind = bound.kind → other ≠ bound →
        ∃ otherLiteral, literal? dialect other.value = some otherLiteral ∧
          ∀ flavor, otherLiteral.sql flavor ≠ literal.sql flavor := by
  have readBack (flavor : Flavor) :=
    BoundValue.readLiteral?_kindLiteral dialect.flavor flavor plain
  refine ⟨_, BoundValue.literal?_value dialect, readBack, ?_⟩
  intro other otherPlain sameKind different
  refine ⟨_, BoundValue.literal?_value dialect, ?_⟩
  intro flavor sameSql
  have otherRead := BoundValue.readLiteral?_kindLiteral dialect.flavor flavor otherPlain
  rw [sameSql, sameKind, readBack flavor] at otherRead
  exact different (Option.some.inj otherRead).symm

/-- One nanosecond after the calendar has started. -/
def firstNanosecond : LocalDateTime where
  date := ⟨firstDay, Int.le_refl _, by decide⟩
  time := ⟨0, 1, by decide, by decide⟩

/-- Ten nanoseconds after the calendar has started. -/
def tenthNanosecond : LocalDateTime where
  date := firstNanosecond.date
  time := { firstNanosecond.time with nanosecond := 10, nanosecond_lt := by decide }

/-- Both fractions need nine digits, which tell the two literals apart. -/
theorem readLiteral?_literal?_earliest :
    ((BoundValue.dateTime firstNanosecond).IsPlain ∧
        (BoundValue.dateTime tenthNanosecond).IsPlain ∧
        BoundValue.dateTime tenthNanosecond ≠ BoundValue.dateTime firstNanosecond) ∧
      literal? Flavor.impala.dialect (.localDateTime firstNanosecond) =
        some (.verbatim "CAST(\x27-262143-01-01 00:00:00.000000001\x27 AS TIMESTAMP)") ∧
      Kind.dateTime.readLiteral?
          ((Expression.verbatim
            "CAST(\x27-262143-01-01 00:00:00.000000001\x27 AS TIMESTAMP)").sql .generic) =
        some (.dateTime firstNanosecond) ∧
      ∃ otherLiteral,
        literal? Flavor.impala.dialect (.localDateTime tenthNanosecond) = some otherLiteral ∧
        otherLiteral.sql .generic ≠ (Expression.verbatim
          "CAST(\x27-262143-01-01 00:00:00.000000001\x27 AS TIMESTAMP)").sql .generic := by
  have plain : (BoundValue.dateTime firstNanosecond).IsPlain := by
    show firstNanosecond.time.nanosecond < 1000000000
    decide
  have tenthPlain : (BoundValue.dateTime tenthNanosecond).IsPlain := by
    show tenthNanosecond.time.nanosecond < 1000000000
    decide
  have different : BoundValue.dateTime tenthNanosecond ≠ BoundValue.dateTime firstNanosecond := by
    decide
  have written : literal? Flavor.impala.dialect (.localDateTime firstNanosecond) =
      some (.verbatim "CAST(\x27-262143-01-01 00:00:00.000000001\x27 AS TIMESTAMP)") := by
    decide
  obtain ⟨literal, found, readBack, others⟩ :=
    readLiteral?_literal? Flavor.impala.dialect (.dateTime firstNanosecond) plain
  obtain rfl := Option.some.inj (written.symm.trans found)
  obtain ⟨otherLiteral, otherFound, apart⟩ :=
    others (.dateTime tenthNanosecond) tenthPlain rfl different
  exact ⟨⟨plain, tenthPlain, different⟩, written, readBack .generic, otherLiteral, otherFound,
    apart .generic⟩

end ImpalaAdapter.Temporal
