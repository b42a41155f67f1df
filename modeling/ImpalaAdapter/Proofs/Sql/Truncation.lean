/-
This file shows that a truncation holds the SQL of its operand in one piece, and that the texts around
it tell all granularities apart.
-/

import ImpalaAdapter.Proofs.Sql.Layer
import ImpalaAdapter.Sql.Dialect

namespace ImpalaAdapter.Sql

open Temporal

namespace Flavor

/-- The layers around the operand of a generic truncation. -/
def genericLayers (granularity : Granularity) : List Layer :=
  let cut := fun (period : String) => [Layer.argument "DATE_TRUNC" [.string period] []]
  match granularity with
  | .minute => cut "minute"
  | .minuteOfHour => [.extract .minute]
  | .hour => cut "hour"
  | .hourOfDay => [.extract .hour]
  | .day => cut "day"
  | .dayOfWeek => [.extract .dayOfWeek]
  | .dayOfMonth => [.extract .day]
  | .dayOfYear => [.extract .dayOfYear]
  | .week => cut "week"
  | .weekOfYear => [.extract .week]
  | .month => cut "month"
  | .monthOfYear => [.extract .month]
  | .quarter => cut "quarter"
  | .quarterOfYear => [.extract .quarter]
  | .year => cut "year"
  | .default => [.castToTimestamp]

/-- Only the quarter of the year has more than one layer. -/
def impalaLayers (granularity : Granularity) : List Layer :=
  let alone := fun (name : String) => Layer.argument name [] []
  let cut := fun (format : String) => Layer.argument "trunc" [] [.string format]
  let extract := fun (part : DatePart) => Layer.argument "extract" [] [.string part.unitName]
  match granularity with
  | .minute => [cut "MI"]
  | .minuteOfHour => [extract .minute]
  | .hour => [cut "HH"]
  | .hourOfDay => [extract .hour]
  | .day => [cut "dd"]
  | .dayOfWeek => [alone "dayofweek"]
  | .dayOfMonth => [alone "dayofmonth"]
  | .dayOfYear => [alone "dayofyear"]
  | .week => [cut "day"]
  | .weekOfYear => [alone "weekofyear"]
  | .month => [cut "month"]
  | .monthOfYear => [extract .month]
  | .quarter => [cut "Q"]
  | .quarterOfYear =>
      [extract .month, .leftOf .plus (.integer 2), .parentheses,
        .leftOf .integerDivision (.integer 3)]
  | .year => [extract .year]
  | .default => [.castToTimestamp]

def truncationLayers : Flavor → Granularity → List Layer
  | .generic => genericLayers
  | .impala => impalaLayers

theorem wrapAll_truncationLayers (style : Flavor) (granularity : Granularity)
    (operand : Expression) :
    Layer.wrapAll operand (style.truncationLayers granularity) =
      style.truncation granularity operand := by
  cases style <;> cases granularity <;> rfl

/-- The texts around an operand belong to one granularity only. -/
theorem eq_of_alike_truncationLayers {style flavor : Flavor} {first second : Granularity}
    (alike : Layer.Alike flavor (style.truncationLayers first) (style.truncationLayers second)) :
    first = second := by
  have listed (granularity : Granularity) : granularity ∈ Granularity.all := by
    cases granularity <;> decide
  have table : ∀ first ∈ Granularity.all, ∀ second ∈ Granularity.all,
      Layer.Alike flavor (style.truncationLayers first) (style.truncationLayers second) →
        first = second := by
    cases style <;> cases flavor <;> decide
  exact table first (listed first) second (listed second) alike

variable (style flavor : Flavor) (granularity : Granularity) (operand : Expression)

theorem sql_truncation_layers :
    (style.truncation granularity operand).sql flavor =
      spell flavor (Layer.openings flavor (style.truncationLayers granularity)) ++
        operand.sql flavor ++
          spell flavor (Layer.closings flavor (style.truncationLayers granularity)) := by
  rw [← wrapAll_truncationLayers, Layer.sql_wrapAll]

variable {style flavor granularity operand} in
/-- Even an operand that imitates the end of a truncation does not change the granularity. -/
theorem granularity_of_sql_eq {other : Granularity} {otherOperand : Expression}
    (same : (style.truncation granularity operand).sql flavor =
      (style.truncation other otherOperand).sql flavor) : granularity = other := by
  rw [← wrapAll_truncationLayers, ← wrapAll_truncationLayers] at same
  exact eq_of_alike_truncationLayers (Layer.alike_of_sql_eq same)

end Flavor

/-- A truncation writes fixed texts around the SQL of its operand, whatever the operand is. Its SQL
tells the granularity and the SQL of the operand. -/
theorem sql_truncation (dialect : Dialect) (flavor : Flavor) :
    (∀ granularity : Granularity, ∃ before after : String, ∀ operand : Expression,
      (dialect.flavor.truncation granularity operand).sql flavor =
        before ++ operand.sql flavor ++ after) ∧
    ∀ (first second : Granularity) (operand other : Expression),
      (dialect.flavor.truncation first operand).sql flavor =
          (dialect.flavor.truncation second other).sql flavor ↔
        first = second ∧ operand.sql flavor = other.sql flavor := by
  constructor
  · intro granularity
    exact ⟨_, _, dialect.flavor.sql_truncation_layers flavor granularity⟩
  · intro first second operand other
    constructor
    · intro same
      have granularity : first = second := Flavor.granularity_of_sql_eq same
      subst granularity
      rw [Flavor.sql_truncation_layers, Flavor.sql_truncation_layers, String.append_left_inj,
        String.append_right_inj] at same
      exact ⟨rfl, same⟩
    · rintro ⟨rfl, same⟩
      rw [Flavor.sql_truncation_layers, Flavor.sql_truncation_layers, same]

/-- The start of a week is cut with the format `day`, also when the operand ends like the start of a
day. -/
example : ((Flavor.impala.truncation .week (.verbatim "at, \x27dd\x27)")).sql .impala) =
    "trunc(at, \x27dd\x27), \x27day\x27)" := by
  decide

end ImpalaAdapter.Sql
