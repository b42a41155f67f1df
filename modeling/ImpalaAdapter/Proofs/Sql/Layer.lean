/-
This file puts operands into larger expressions, layer by layer, and shows that an operand is spelled
in one piece wherever it stands.
-/

import ImpalaAdapter.Proofs.Sql.Spelling

namespace ImpalaAdapter.Sql

/-- A layer is one node of an expression that waits for one of its operands. -/
inductive Layer where
  | leftOf (operator : BinaryOperator) (right : Expression)
  | rightOf (left : Expression) (operator : BinaryOperator)
  | argument (name : String) (earlier later : List Expression)
  | castToTimestamp
  | extract (part : DatePart)
  | parentheses

namespace Layer

def wrap (operand : Expression) : Layer → Expression
  | .leftOf operator right => .binary operand operator right
  | .rightOf left operator => .binary left operator operand
  | .argument name earlier later => .call name (earlier ++ operand :: later)
  | .castToTimestamp => .castToTimestamp operand
  | .extract part => .extract part operand
  | .parentheses => .parenthesized operand

/-- The first layer is the innermost one. -/
def wrapAll (operand : Expression) (layers : List Layer) : Expression :=
  layers.foldl wrap operand

variable (flavor : Flavor)

/-- The tokens of a layer in front of its operand. -/
def opening : Layer → List Token
  | .leftOf _ _ => []
  | .rightOf left operator => left.tokensFor flavor ++ [.space, operator.token, .space]
  | .argument name earlier _ =>
      [.functionName name, .openParen] ++
        earlier.flatMap fun argument => argument.tokensFor flavor ++ [.comma, .space]
  | .castToTimestamp => [.castKeyword, .openParen]
  | .extract part =>
      [.extractKeyword, .openParen, .verbatim part.keyword, .space, .fromKeyword, .space]
  | .parentheses => [.openParen]

/-- The tokens of a layer behind its operand. -/
def closing : Layer → List Token
  | .leftOf operator right => [.space, operator.token, .space] ++ right.tokensFor flavor
  | .rightOf _ _ => []
  | .argument _ _ later => Expression.furtherArgumentTokens flavor later ++ [.closeParen]
  | .castToTimestamp => [.space, .asKeyword, .space, .verbatim "TIMESTAMP", .closeParen]
  | .extract _ => [.closeParen]
  | .parentheses => [.closeParen]

def openings (layers : List Layer) : List Token :=
  layers.reverse.flatMap (opening flavor)

def closings (layers : List Layer) : List Token :=
  layers.flatMap (closing flavor)

/-- The same commas stand between the arguments when each is seen to end the argument before it. -/
theorem argumentTokens_append_cons (earlier : List Expression) (operand : Expression)
    (later : List Expression) :
    Expression.argumentTokens flavor (earlier ++ operand :: later) =
      (earlier.flatMap fun argument => argument.tokensFor flavor ++ [.comma, .space]) ++
        operand.tokensFor flavor ++ Expression.furtherArgumentTokens flavor later := by
  induction earlier with
  | nil => rw [List.nil_append, Expression.argumentTokens, List.flatMap_nil, List.nil_append]
  | cons first earlier inductionHypothesis =>
      have further (arguments : List Expression) (nonempty : arguments ≠ []) :
          Expression.furtherArgumentTokens flavor arguments =
            [.comma, .space] ++ Expression.argumentTokens flavor arguments := by
        cases arguments with
        | nil => exact absurd rfl nonempty
        | cons next rest =>
            rw [Expression.furtherArgumentTokens, Expression.argumentTokens, List.append_assoc]
      rw [List.cons_append, Expression.argumentTokens, further _ (by simp), inductionHypothesis,
        List.flatMap_cons]
      simp only [List.append_assoc]

/-- The tokens of a layer stand around the tokens of its operand. -/
theorem tokensFor_wrap (layer : Layer) (operand : Expression) :
    (layer.wrap operand).tokensFor flavor =
      layer.opening flavor ++ operand.tokensFor flavor ++ layer.closing flavor := by
  cases layer with
  | argument name earlier later =>
      simp [wrap, opening, closing, Expression.tokensFor, argumentTokens_append_cons]
  | leftOf | rightOf | castToTimestamp | extract | parentheses =>
      simp [wrap, opening, closing, Expression.tokensFor]

theorem tokensFor_wrapAll (layers : List Layer) (operand : Expression) :
    (wrapAll operand layers).tokensFor flavor =
      openings flavor layers ++ operand.tokensFor flavor ++ closings flavor layers := by
  induction layers generalizing operand with
  | nil => simp [wrapAll, openings, closings]
  | cons layer layers inductionHypothesis =>
      have outer : openings flavor (layer :: layers) =
          openings flavor layers ++ layer.opening flavor := by
        simp [openings]
      have inner : closings flavor (layer :: layers) =
          layer.closing flavor ++ closings flavor layers := by
        simp [closings]
      rw [wrapAll, List.foldl_cons, ← wrapAll, inductionHypothesis, tokensFor_wrap, outer, inner]
      simp only [List.append_assoc]

/-- An operand is spelled in one piece, however many layers are around it. -/
theorem sql_wrapAll (layers : List Layer) (operand : Expression) :
    (wrapAll operand layers).sql flavor =
      spell flavor (openings flavor layers) ++ operand.sql flavor ++
        spell flavor (closings flavor layers) := by
  rw [Expression.sql, tokensFor_wrapAll, spell_append, spell_append, Expression.sql]

/-- The text of a token sequence is its spelling, character by character. -/
def tokenText (tokens : List Token) : List Char :=
  tokens.flatMap fun token => (token.spelling flavor).toList

theorem toList_spell (tokens : List Token) :
    (spell flavor tokens).toList = tokenText flavor tokens := by
  induction tokens with
  | nil => simp [tokenText]
  | cons token tokens inductionHypothesis => simp [tokenText, inductionHypothesis]

/-- Layers look alike when the texts in front of their operands can start one text, and the texts
behind them can end one. -/
def Alike (first second : List Layer) : Prop :=
  (tokenText flavor (openings flavor first) <+: tokenText flavor (openings flavor second) ∨
      tokenText flavor (openings flavor second) <+: tokenText flavor (openings flavor first)) ∧
    (tokenText flavor (closings flavor first) <:+ tokenText flavor (closings flavor second) ∨
      tokenText flavor (closings flavor second) <:+ tokenText flavor (closings flavor first))

instance (first second : List Layer) : Decidable (Alike flavor first second) :=
  inferInstanceAs (Decidable (_ ∧ _))

variable {flavor} in
/-- The operands do not matter, because they stand between the texts that are compared. -/
theorem alike_of_sql_eq {first second : List Layer} {operand other : Expression}
    (same : (wrapAll operand first).sql flavor = (wrapAll other second).sql flavor) :
    Alike flavor first second := by
  have text := congrArg String.toList same
  rw [sql_wrapAll, sql_wrapAll] at text
  simp only [String.toList_append, toList_spell] at text
  rw [List.append_assoc, List.append_assoc] at text
  constructor
  · apply List.prefix_or_prefix_of_prefix (List.prefix_append _ _)
    rw [text]
    exact List.prefix_append _ _
  · rw [← List.append_assoc, ← List.append_assoc] at text
    apply List.suffix_or_suffix_of_suffix (List.suffix_append _ _)
    rw [text]
    exact List.suffix_append _ _

end Layer

end ImpalaAdapter.Sql
