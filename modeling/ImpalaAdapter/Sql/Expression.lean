/-
This file describes SQL expressions and their tokens.
-/

import ImpalaAdapter.Sql.Token

namespace ImpalaAdapter.Sql

inductive DatePart where
  | minute
  | hour
  | day
  | dayOfWeek
  | dayOfYear
  | week
  | month
  | quarter
  | year
deriving DecidableEq

/-- The keyword names the part in `EXTRACT(... FROM ...)`. -/
def DatePart.keyword : DatePart → String
  | .minute => "MINUTE"
  | .hour => "HOUR"
  | .day => "DAY"
  | .dayOfWeek => "DOW"
  | .dayOfYear => "DOY"
  | .week => "WEEK"
  | .month => "MONTH"
  | .quarter => "QUARTER"
  | .year => "YEAR"

/-- The unit name is the string that names the part in a function call. -/
def DatePart.unitName : DatePart → String
  | .minute => "minute"
  | .hour => "hour"
  | .day => "day"
  | .dayOfWeek => "dow"
  | .dayOfYear => "doy"
  | .week => "week"
  | .month => "month"
  | .quarter => "quarter"
  | .year => "year"

inductive BinaryOperator where
  | plus
  | integerDivision
deriving DecidableEq

def BinaryOperator.token : BinaryOperator → Token
  | .plus => .plus
  | .integerDivision => .integerDivision

/-- Casts go to timestamps only. Verbatim SQL is trusted and never quoted. -/
inductive Expression where
  | column (table : Option String) (name : String)
  | integer (value : Int)
  | string (text : String)
  | binary (left : Expression) (operator : BinaryOperator) (right : Expression)
  | call (name : String) (arguments : List Expression)
  | castToTimestamp (operand : Expression)
  | extract (part : DatePart) (operand : Expression)
  | parenthesized (operand : Expression)
  | verbatim (sql : String)

namespace Expression

mutual

/-- The tokens hold no parentheses but those of calls, casts and parenthesized expressions. The
flavor is handed down to every part. -/
def tokensFor (flavor : Flavor) : Expression → List Token
  | .column none name => [.identifier name]
  | .column (some table) name => [.identifier table, .dot, .identifier name]
  | .integer value => [.integer value]
  | .string text => [.string text]
  | .binary left operator right =>
      left.tokensFor flavor ++ [.space, operator.token, .space] ++ right.tokensFor flavor
  | .call name arguments =>
      [.functionName name, .openParen] ++ argumentTokens flavor arguments ++ [.closeParen]
  | .castToTimestamp operand =>
      [.castKeyword, .openParen] ++ operand.tokensFor flavor ++
        [.space, .asKeyword, .space, .verbatim "TIMESTAMP", .closeParen]
  | .extract part operand =>
      [.extractKeyword, .openParen, .verbatim part.keyword, .space, .fromKeyword, .space] ++
        operand.tokensFor flavor ++ [.closeParen]
  | .parenthesized operand => [.openParen] ++ operand.tokensFor flavor ++ [.closeParen]
  | .verbatim sql => [.verbatim sql]

/-- A comma and a space stand between two arguments. -/
def argumentTokens (flavor : Flavor) : List Expression → List Token
  | [] => []
  | first :: rest => first.tokensFor flavor ++ furtherArgumentTokens flavor rest

def furtherArgumentTokens (flavor : Flavor) : List Expression → List Token
  | [] => []
  | next :: rest =>
      [.comma, .space] ++ next.tokensFor flavor ++ furtherArgumentTokens flavor rest

end

/-- The tokens for the default flavor. -/
def tokens (expression : Expression) : List Token :=
  expression.tokensFor default

mutual

def sameAs : Expression → Expression → Bool
  | .column table name, .column table' name' => table == table' && name == name'
  | .integer value, .integer value' => value == value'
  | .string text, .string text' => text == text'
  | .binary left operator right, .binary left' operator' right' =>
      left.sameAs left' && operator == operator' && right.sameAs right'
  | .call name arguments, .call name' arguments' =>
      name == name' && sameArguments arguments arguments'
  | .castToTimestamp operand, .castToTimestamp operand' => operand.sameAs operand'
  | .extract part operand, .extract part' operand' => part == part' && operand.sameAs operand'
  | .parenthesized operand, .parenthesized operand' => operand.sameAs operand'
  | .verbatim sql, .verbatim sql' => sql == sql'
  | _, _ => false

def sameArguments : List Expression → List Expression → Bool
  | [], [] => true
  | argument :: rest, argument' :: rest' => argument.sameAs argument' && sameArguments rest rest'
  | _, _ => false

end

mutual

/-- The comparison finds two expressions alike exactly when they are equal. -/
theorem sameAs_iff : ∀ first second : Expression, first.sameAs second = true ↔ first = second
  | .column .., second => by cases second <;> simp [sameAs]
  | .integer _, second => by cases second <;> simp [sameAs]
  | .string _, second => by cases second <;> simp [sameAs]
  | .binary left _ right, second => by
      cases second <;> simp [sameAs, sameAs_iff left, sameAs_iff right, and_assoc]
  | .call _ arguments, second => by cases second <;> simp [sameAs, sameArguments_iff arguments]
  | .castToTimestamp operand, second => by cases second <;> simp [sameAs, sameAs_iff operand]
  | .extract _ operand, second => by cases second <;> simp [sameAs, sameAs_iff operand]
  | .parenthesized operand, second => by cases second <;> simp [sameAs, sameAs_iff operand]
  | .verbatim _, second => by cases second <;> simp [sameAs]

theorem sameArguments_iff : ∀ first second : List Expression,
    sameArguments first second = true ↔ first = second
  | [], second => by cases second <;> simp [sameArguments]
  | argument :: rest, second => by
      cases second <;> simp [sameArguments, sameAs_iff argument, sameArguments_iff rest]

end

instance : DecidableEq Expression := fun first second =>
  decidable_of_iff _ (sameAs_iff first second)

def sql (flavor : Flavor) (expression : Expression) : String :=
  spell flavor (expression.tokensFor flavor)

end Expression

end ImpalaAdapter.Sql
