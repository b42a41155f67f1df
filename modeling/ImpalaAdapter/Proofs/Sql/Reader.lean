/-
This file describes a reader of SQL. The reader finds the operands of each operator chain, and a
grouping makes a tree of the chain.
-/

import ImpalaAdapter.Proofs.Sql.Spelling
import ImpalaAdapter.Proofs.Sql.Word

namespace ImpalaAdapter.Sql

/-- A reader gives a value and the text after it. -/
abbrev Reader (Value : Type) := List Char → Option (Value × List Char)

/-- A chain holds its first operand, and each further operand with the operator before it. -/
abbrev Chain := Expression × List (BinaryOperator × Expression)

namespace Expression

/-- The spine of an expression is the chain of operators on its leftmost branch. -/
def spine : Expression → Chain
  | .binary left operator right => (left.spine.1, left.spine.2 ++ [(operator, right)])
  | operand => (operand, [])

def isBinary : Expression → Bool
  | .binary .. => true
  | _ => false

theorem spine_of_single {expression : Expression} (single : expression.isBinary = false) :
    expression.spine = (expression, []) := by
  cases expression with
  | binary left operator right => cases single
  | _ => rfl

end Expression

/-- Each operator takes everything before it as its left operand. -/
def Chain.leftToRight (chain : Chain) : Expression :=
  chain.2.foldl (fun left link => .binary left link.1 link.2) chain.1

/-- A spine that is grouped from left to right gives back its expression. -/
theorem Chain.leftToRight_spine (expression : Expression) :
    Chain.leftToRight expression.spine = expression := by
  induction expression using Expression.spine.induct with
  | case1 left operator right inductionHypothesis =>
      simp only [Chain.leftToRight] at inductionHypothesis
      simp [Expression.spine, Chain.leftToRight, inductionHypothesis]
  | case2 expression noBinary =>
      cases expression with
      | binary left operator right => exact (noBinary left operator right rfl).elim
      | _ => rfl

def DatePart.all : List DatePart :=
  [.minute, .hour, .day, .dayOfWeek, .dayOfYear, .week, .month, .quarter, .year]

def DatePart.ofKeyword? (keyword : String) : Option DatePart :=
  all.find? fun part => part.keyword == keyword

namespace Reader

/-- The reader expects this text and gives nothing. -/
def skip (expected : String) (text : List Char) : Option (List Char) :=
  expected.toList.isPrefixOf? text

def number : Reader Nat := fun text =>
  if (text.takeWhile isDigit).isEmpty then none
  else some (numeralValue (text.takeWhile isDigit), text.dropWhile isDigit)

def integer : Reader Int := fun text =>
  match skip "-" text with
  | some rest => (number rest).map fun found => (-(found.1 : Int), found.2)
  | none => (number text).map fun found => ((found.1 : Int), found.2)

variable (flavor : Flavor)

def operator : Reader BinaryOperator := fun text =>
  [BinaryOperator.plus, .integerDivision].findSome? fun operator =>
    ((operatorText flavor operator).isPrefixOf? text).map fun rest => (operator, rest)

/-- A column starts after its opening mark. A table stands before a dot. -/
def column : Reader Expression := fun text => do
  let (first, rest) ← Text.scanQuoted flavor.mark text
  match ['.', flavor.mark].isPrefixOf? rest with
  | some rest => do
      let (second, rest) ← Text.scanQuoted flavor.mark rest
      some (.column (some (String.ofList first)) (String.ofList second), rest)
  | none => some (.column none (String.ofList first), rest)

/-- A string starts after its opening quote. -/
def string : Reader Expression := fun text =>
  (Text.scanQuoted stringQuote text).map fun found => (.string (String.ofList found.1), found.2)

def intervalWord : String := "INTERVAL"

/-- An interval is one operand. Its amount ends before a space, and its unit is a word. -/
def interval : Reader Expression := fun text => do
  let rest ← skip " " text
  let amount := rest.takeWhile (· ≠ ' ')
  let rest ← skip " " (rest.dropWhile (· ≠ ' '))
  let sql := intervalWord.toList ++ ' ' :: amount ++ ' ' :: rest.takeWhile continuesWord
  some (.verbatim (String.ofList sql), rest.dropWhile continuesWord)

section
variable (operand : Reader Expression)

/-- The links of a chain go on as long as operators follow. -/
def links : Nat → Chain → Reader Chain
  | 0, chain, text => some (chain, text)
  | rounds + 1, chain, text =>
      match operator flavor text with
      | none => some (chain, text)
      | some (operator, rest) => do
          let (right, rest) ← operand rest
          links rounds (chain.1, chain.2 ++ [(operator, right)]) rest

def chain : Reader Chain := fun text => do
  let (first, rest) ← operand text
  links flavor operand rest.length (first, []) rest

end

section
variable (inner : Reader Expression)

def furtherArguments : Nat → Reader (List Expression)
  | 0, text => some ([], text)
  | rounds + 1, text =>
      match skip ", " text with
      | none => some ([], text)
      | some rest => do
          let (next, rest) ← inner rest
          let (others, rest) ← furtherArguments rounds rest
          some (next :: others, rest)

/-- The arguments of a call end before the closing parenthesis. -/
def arguments : Reader (List Expression) := fun text =>
  match skip ")" text with
  | some _ => some ([], text)
  | none => do
      let (first, rest) ← inner text
      let (others, rest) ← furtherArguments inner rest.length rest
      some (first :: others, rest)

/-- The text after the first argument tells casts and extractions from calls. -/
def special (name : String) (argument : Expression) : Reader Expression := fun text =>
  if name = "CAST" then
    (skip " AS TIMESTAMP)" text).map fun rest => (.castToTimestamp argument, rest)
  else if name = "EXTRACT" then
    match argument with
    | .verbatim keyword => do
        let part ← DatePart.ofKeyword? keyword
        let rest ← skip " FROM " text
        let (operand, rest) ← inner rest
        let rest ← skip ")" rest
        some (.extract part operand, rest)
    | _ => none
  else none

/-- The closing parenthesis of a call comes after its last argument. -/
def closeCall (name : String) (list : List Expression) : Reader Expression := fun text =>
  match skip ")" text with
  | some rest => some (.call name list, rest)
  | none =>
      match list with
      | [argument] => special inner name argument text
      | _ => none

/-- A word without a parenthesis after it stands for itself, unless it opens an interval. -/
def word : Reader Expression := fun text =>
  let name := String.ofList (text.takeWhile continuesWord)
  match skip "(" (text.dropWhile continuesWord) with
  | none =>
      if name = intervalWord then interval (text.dropWhile continuesWord)
      else some (.verbatim name, text.dropWhile continuesWord)
  | some rest => (arguments inner rest).bind fun found => closeCall inner name found.1 found.2

def parenthesized : Reader Expression := fun text => do
  let (operand, rest) ← inner text
  let rest ← skip ")" rest
  some (.parenthesized operand, rest)

/-- The first character of an operand decides its kind. -/
def operand : Reader Expression := fun text =>
  match text with
  | [] => none
  | first :: rest =>
      if first = flavor.mark then column flavor rest
      else if first = stringQuote then string rest
      else if first = '(' then parenthesized inner rest
      else if opensWord first then word inner text
      else (integer text).map fun found => (.integer found.1, found.2)

end

/-- The depth bounds the nesting of parentheses. -/
def expression (group : Chain → Expression) : Nat → Reader Expression
  | 0, _ => none
  | depth + 1, text =>
      (chain flavor (operand flavor (expression group depth)) text).map fun found =>
        (group found.1, found.2)

end Reader

/-- The whole text has to be read. No text nests more parentheses than it has characters. -/
def readExpression (flavor : Flavor) (group : Chain → Expression) (text : String) :
    Option Expression :=
  match Reader.expression flavor group (text.toList.length + 1) text.toList with
  | some (expression, []) => some expression
  | _ => none

end ImpalaAdapter.Sql
