/-
This file shows that the SQL of an expression determines the expression.
-/

import ImpalaAdapter.Proofs.Sql.ExpressionReading
import ImpalaAdapter.Sql.Dialect

namespace ImpalaAdapter.Sql.Expression

mutual

/-- A plain expression has no verbatim parts, calls words only, and has no operator chain as the
right operand of an operator. -/
def isPlain : Expression → Bool
  | .column .. | .integer _ | .string _ => true
  | .binary left _ right => left.isPlain && right.isPlain && !right.isBinary
  | .call name arguments => isWord name && arePlain arguments
  | .castToTimestamp operand | .extract _ operand | .parenthesized operand => operand.isPlain
  | .verbatim _ => false

def arePlain : List Expression → Bool
  | [] => true
  | first :: rest => first.isPlain && arePlain rest

end

theorem arePlain_iff (arguments : List Expression) :
    arePlain arguments ↔ ∀ argument ∈ arguments, argument.isPlain := by
  induction arguments with
  | nil => simp [arePlain]
  | cons first rest inductionHypothesis => simp [arePlain, inductionHypothesis]

/-- Plain expressions are restored by grouping from left to right. -/
theorem readable_isPlain : Reader.Readable Chain.leftToRight (isPlain · = true) where
  single _ := rfl
  regroups _ := Chain.leftToRight_spine _
  binary plain := by simpa [isPlain, and_assoc] using plain
  call plain := by simpa [isPlain, arePlain_iff] using plain
  castToTimestamp plain := by simpa [isPlain] using plain
  extract plain := by simpa [isPlain] using plain
  parenthesized plain := by simpa [isPlain] using plain
  verbatim plain := by simp [isPlain] at plain

/-- Two plain expressions with the same SQL are the same expression. -/
theorem eq_of_sql_eq (flavor : Flavor) {first second : Expression} (firstPlain : first.isPlain)
    (secondPlain : second.isPlain) (same : first.sql flavor = second.sql flavor) :
    first = second := by
  have readFirst := readExpression_sql flavor readable_isPlain firstPlain
  have readSecond := readExpression_sql flavor readable_isPlain secondPlain
  rw [same, readSecond] at readFirst
  exact (Option.some.inj readFirst).symm

/-- The names of this column hold the quotes of both flavors and of strings. -/
def quotedColumn : Expression :=
  .column (some "a`.`b") "c\"d'e"

theorem quarterOfYear_eq_of_sql_eq :
    let quarter := Flavor.impala.truncation .quarterOfYear quotedColumn
    let month := Expression.call "extract" [quotedColumn, .string "month"]
    let written := Expression.binary (.parenthesized (.binary month .plus (.integer 2)))
      .integerDivision (.integer 3)
    (quarter.isPlain ∧ written.isPlain ∧ quarter.sql .impala = written.sql .impala) ∧
      quarter = written :=
  ⟨⟨by decide, by decide, rfl⟩, eq_of_sql_eq .impala (by decide) (by decide) rfl⟩

/-- A chain on the right of an operator has the SQL of a chain on its left. -/
example (first second third : Expression) (flavor : Flavor) :
    (binary first .plus (.binary second .plus third)).sql flavor =
      (binary (.binary first .plus second) .plus third).sql flavor := by
  simp [sql, tokensFor]

end ImpalaAdapter.Sql.Expression
