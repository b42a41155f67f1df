/-
This file follows pipelines of truncations and interval sums, and shows that their SQL keeps the
structure that the steps gave them.
-/

import ImpalaAdapter.Proofs.Sql.Precedence
import ImpalaAdapter.Sql.Dialect

namespace ImpalaAdapter.Sql

open Temporal

/-- Each step of a pipeline is written by a flavor of its own. -/
inductive TemporalStep where
  | truncate (flavor : Flavor) (granularity : Granularity)
  | addInterval (flavor : Flavor) (amount : Binary64) (unit : IntervalUnit)

def TemporalStep.apply (operand : Expression) : TemporalStep → Expression
  | .truncate flavor granularity => flavor.truncation granularity operand
  | .addInterval flavor amount unit => flavor.intervalSum operand amount unit

/-- A pipeline takes its steps one after the other. -/
def pipeline (start : Expression) (steps : List TemporalStep) : Expression :=
  steps.foldl TemporalStep.apply start

theorem not_mem_wholeAmount (amount : Binary64) : ' ' ∉ (wholeAmount amount).toList := by
  have noSpace (number : Nat) : ' ' ∉ digits number := by
    intro member
    exact absurd (isDigit_of_mem_digits number ' ' member) (by decide)
  rw [wholeAmount, String.toList_ofList, signedDigits]
  split
  · simp [noSpace]
  · exact noSpace _

theorem isInterval_bareInterval (amount : Binary64) (unit : IntervalUnit) :
    Reader.IsInterval (bareInterval amount unit) := by
  refine ⟨(wholeAmount amount).toList, unit.keyword.toList, ?_, not_mem_wholeAmount amount, ?_⟩
  · simp [bareInterval, Reader.intervalWord]
  · exact List.all_eq_true.mp (by cases unit <;> decide)

theorem isInterval_quotedInterval (amount : Binary64) (unit : IntervalUnit) :
    Reader.IsInterval (quotedInterval amount unit) := by
  refine ⟨'\x27' :: (wholeAmount amount).toList ++ ['\x27'], Text.uppercase unit.keyword.toList,
    ?_, ?_, ?_⟩
  · simp [quotedInterval, Reader.intervalWord]
  · simp [not_mem_wholeAmount]
  · exact List.all_eq_true.mp (by cases unit <;> decide)

namespace Expression

variable {operand : Expression}

theorem grouped_call_single {name : String} (isName : isWord name) (grouped : Grouped operand) :
    Grouped (.call name [operand]) := by
  refine .call isName ?_
  intro argument member
  rwa [List.mem_singleton.mp member]

theorem grouped_call_pair {name : String} {first second : Expression} (isName : isWord name)
    (firstGrouped : Grouped first) (secondGrouped : Grouped second) :
    Grouped (.call name [first, second]) := by
  refine .call isName ?_
  rw [List.forall_mem_cons, List.forall_mem_singleton]
  exact ⟨firstGrouped, secondGrouped⟩

theorem grouped_genericTruncation (granularity : Granularity) (grouped : Grouped operand) :
    Grouped (Flavor.genericTruncation granularity operand) := by
  cases granularity with
  | minute | hour | day | week | month | quarter | year =>
      exact grouped_call_pair (by decide) (.string _) grouped
  | minuteOfHour | hourOfDay | dayOfWeek | dayOfMonth | dayOfYear | weekOfYear | monthOfYear
  | quarterOfYear => exact .extract _ grouped
  | default => exact .castToTimestamp grouped

/-- The quarter of the year puts its sum between parentheses before it is divided. -/
theorem grouped_impalaTruncation (granularity : Granularity) (grouped : Grouped operand) :
    Grouped (Flavor.impalaTruncation granularity operand) := by
  cases granularity with
  | minute | hour | day | week | month | quarter | minuteOfHour | hourOfDay | monthOfYear | year =>
      exact grouped_call_pair (by decide) grouped (.string _)
  | dayOfWeek | dayOfMonth | dayOfYear | weekOfYear =>
      exact grouped_call_single (by decide) grouped
  | quarterOfYear =>
      have month : Grouped (.call "extract" [operand, .string "month"]) :=
        grouped_call_pair (by decide) grouped (.string _)
      have sum := Grouped.sum month (.integer 2) rfl
      exact .quotient (.parenthesized sum) rfl (.integer 3) rfl
  | default => exact .castToTimestamp grouped

theorem grouped_intervalSum (flavor : Flavor) (amount : Binary64) (unit : IntervalUnit)
    (grouped : Grouped operand) : Grouped (flavor.intervalSum operand amount unit) := by
  cases flavor with
  | generic => exact .sum grouped (.interval (isInterval_quotedInterval amount unit)) rfl
  | impala =>
      exact grouped_call_pair (by decide) grouped (.interval (isInterval_bareInterval amount unit))

/-- One step keeps an expression grouped. -/
theorem grouped_apply (step : TemporalStep) (grouped : Grouped operand) :
    Grouped (step.apply operand) := by
  cases step with
  | truncate flavor granularity =>
      cases flavor with
      | generic => exact grouped_genericTruncation granularity grouped
      | impala => exact grouped_impalaTruncation granularity grouped
  | addInterval flavor amount unit => exact grouped_intervalSum flavor amount unit grouped

theorem grouped_pipeline (steps : List TemporalStep) (grouped : Grouped operand) :
    Grouped (pipeline operand steps) := by
  induction steps generalizing operand with
  | nil => exact grouped
  | cons step steps inductionHypothesis => exact inductionHypothesis (grouped_apply step grouped)

end Expression

/-- The SQL of a pipeline over a column is read back as the tree that its steps built. -/
theorem readExpression_pipeline (flavor : Flavor) (table : Option String) (name : String)
    (steps : List TemporalStep) :
    readExpression flavor Chain.byPrecedence ((pipeline (.column table name) steps).sql flavor) =
      some (pipeline (.column table name) steps) :=
  readExpression_sql flavor Expression.readable_grouped
    (Expression.grouped_pipeline steps (.column table name))

/-- Without its parentheses the sum in the quarter of the year would lose a summand. -/
example :
    readExpression .impala Chain.byPrecedence
        ((Expression.binary (.binary (.integer 7) .plus (.integer 2)) .integerDivision
          (.integer 3)).sql .impala) =
      some (.binary (.integer 7) .plus (.binary (.integer 2) .integerDivision (.integer 3))) := by
  decide +kernel

end ImpalaAdapter.Sql
