/-
This file groups operator chains by the precedence of their operators, and describes the expressions
whose SQL needs no further parentheses under that grouping.
-/

import ImpalaAdapter.Proofs.Sql.ExpressionReading

namespace ImpalaAdapter.Sql

namespace Chain

/-- The sum of the earlier summands, if there are any, and the last summand. -/
abbrev Summands := Option Expression × Expression

def Summands.total : Summands → Expression
  | (none, last) => last
  | (some sum, last) => .binary sum .plus last

/-- A sum takes everything before it as its left operand, and a division takes the last summand
alone. -/
def Summands.extend (summands : Summands) (link : BinaryOperator × Expression) : Summands :=
  match link.1 with
  | .plus => (some summands.total, link.2)
  | .integerDivision => (summands.1, .binary summands.2 .integerDivision link.2)

/-- Divisions bind tighter than sums, and operators of one kind take their left operand first. -/
def byPrecedence (chain : Chain) : Expression :=
  (chain.2.foldl Summands.extend (none, chain.1)).total

end Chain

namespace Expression

def isSum : Expression → Bool
  | .binary _ .plus _ => true
  | _ => false

/-- In a grouped expression no operand is taken over by an operator that binds tighter. -/
inductive Grouped : Expression → Prop
  | column (table : Option String) (name : String) : Grouped (.column table name)
  | integer (value : Int) : Grouped (.integer value)
  | string (text : String) : Grouped (.string text)
  | sum {left right : Expression} (leftGrouped : Grouped left) (rightGrouped : Grouped right)
      (single : right.isBinary = false) : Grouped (.binary left .plus right)
  | quotient {left right : Expression} (leftGrouped : Grouped left) (noSum : left.isSum = false)
      (rightGrouped : Grouped right) (single : right.isBinary = false) :
      Grouped (.binary left .integerDivision right)
  | call {name : String} {arguments : List Expression} (isName : isWord name)
      (argumentsGrouped : ∀ argument ∈ arguments, Grouped argument) :
      Grouped (.call name arguments)
  | castToTimestamp {operand : Expression} (grouped : Grouped operand) :
      Grouped (.castToTimestamp operand)
  | extract {operand : Expression} (part : DatePart) (grouped : Grouped operand) :
      Grouped (.extract part operand)
  | parenthesized {operand : Expression} (grouped : Grouped operand) :
      Grouped (.parenthesized operand)
  | interval {sql : String} (isInterval : Reader.IsInterval sql) : Grouped (.verbatim sql)

/-- The last summand of an expression is its right operand or the whole expression. -/
def summands : Expression → Chain.Summands
  | .binary left .plus right => (some left, right)
  | expression => (none, expression)

theorem total_summands (expression : Expression) : expression.summands.total = expression := by
  unfold summands
  split <;> rfl

theorem summands_of_isSum_eq_false {expression : Expression} (noSum : expression.isSum = false) :
    expression.summands = (none, expression) := by
  unfold summands
  split
  · cases noSum
  · rfl

/-- The links of a grouped expression collect its summands. -/
theorem foldl_extend_spine {expression : Expression} (grouped : Grouped expression) :
    expression.spine.2.foldl Chain.Summands.extend (none, expression.spine.1) =
      expression.summands := by
  induction grouped with
  | @sum left right _ _ _ inductionHypothesis _ =>
      rw [spine, List.foldl_append, inductionHypothesis, List.foldl_cons, List.foldl_nil,
        Chain.Summands.extend, total_summands]
      rfl
  | @quotient left right _ noSum _ _ inductionHypothesis _ =>
      rw [spine, List.foldl_append, inductionHypothesis, List.foldl_cons, List.foldl_nil,
        Chain.Summands.extend, summands_of_isSum_eq_false noSum]
      rfl
  | _ => rfl

theorem byPrecedence_spine {expression : Expression} (grouped : Grouped expression) :
    Chain.byPrecedence expression.spine = expression := by
  rw [Chain.byPrecedence, foldl_extend_spine grouped, total_summands]

/-- Grouped expressions are restored by grouping their chains by precedence. -/
theorem readable_grouped : Reader.Readable Chain.byPrecedence Grouped where
  single _ := rfl
  regroups grouped := byPrecedence_spine grouped
  binary grouped := by
    cases grouped with
    | sum leftGrouped rightGrouped single => exact ⟨leftGrouped, rightGrouped, single⟩
    | quotient leftGrouped _ rightGrouped single => exact ⟨leftGrouped, rightGrouped, single⟩
  call grouped := by
    cases grouped with
    | call isName argumentsGrouped => exact ⟨isName, argumentsGrouped⟩
  castToTimestamp grouped := by
    cases grouped with
    | castToTimestamp operandGrouped => exact operandGrouped
  extract grouped := by
    cases grouped with
    | extract _ operandGrouped => exact operandGrouped
  parenthesized grouped := by
    cases grouped with
    | parenthesized operandGrouped => exact operandGrouped
  verbatim grouped := by
    cases grouped with
    | interval isInterval => exact isInterval

end Expression

end ImpalaAdapter.Sql
