/-
This file shows that the tokens of an expression can be made before the flavor of their spelling is
known, and that a token sequence is spelled as it grows.
-/

import ImpalaAdapter.Proofs.Sql.Spelling

namespace ImpalaAdapter.Sql

namespace Growth

/-- The text of a sequence grows with the sequence. -/
def applyText (flavor : Flavor) (text : String) : Growth → String
  | .push token => text ++ token.spelling flavor
  | .append more => text ++ spell flavor more
  | .appendSelf => text ++ text

/-- The sequence after all steps. -/
def run (tokens : List Token) (steps : List Growth) : List Token :=
  steps.foldl apply tokens

def runText (flavor : Flavor) (text : String) (steps : List Growth) : String :=
  steps.foldl (applyText flavor) text

variable (flavor : Flavor)

/-- A step adds its own spelling to the text of the sequence before it. -/
theorem spell_apply (tokens : List Token) (growth : Growth) :
    spell flavor (growth.apply tokens) = growth.applyText flavor (spell flavor tokens) := by
  cases growth with
  | push token =>
      rw [apply, spell_append, spell_cons, spell_nil, String.append_empty, applyText]
  | append more => rw [apply, spell_append, applyText]
  | appendSelf => rw [apply, spell_append, applyText]

theorem spell_run (tokens : List Token) (steps : List Growth) :
    spell flavor (run tokens steps) = runText flavor (spell flavor tokens) steps := by
  induction steps generalizing tokens with
  | nil => rfl
  | cons growth steps inductionHypothesis =>
      rw [run, List.foldl_cons, ← run, inductionHypothesis, spell_apply]
      rfl

end Growth

namespace Expression

mutual

/-- No part of an expression looks at the flavor that is handed down to it. -/
theorem tokensFor_eq (early late : Flavor) :
    ∀ expression : Expression, expression.tokensFor early = expression.tokensFor late
  | .column none name => by rw [tokensFor, tokensFor]
  | .column (some table) name => by rw [tokensFor, tokensFor]
  | .integer value => by rw [tokensFor, tokensFor]
  | .string text => by rw [tokensFor, tokensFor]
  | .binary left operator right => by
      rw [tokensFor, tokensFor, tokensFor_eq early late left, tokensFor_eq early late right]
  | .call name arguments => by
      rw [tokensFor, tokensFor, argumentTokens_eq early late arguments]
  | .castToTimestamp operand => by rw [tokensFor, tokensFor, tokensFor_eq early late operand]
  | .extract part operand => by rw [tokensFor, tokensFor, tokensFor_eq early late operand]
  | .parenthesized operand => by rw [tokensFor, tokensFor, tokensFor_eq early late operand]
  | .verbatim sql => by rw [tokensFor, tokensFor]

theorem argumentTokens_eq (early late : Flavor) :
    ∀ arguments : List Expression, argumentTokens early arguments = argumentTokens late arguments
  | [] => by rw [argumentTokens, argumentTokens]
  | first :: rest => by
      rw [argumentTokens, argumentTokens, tokensFor_eq early late first,
        furtherArgumentTokens_eq early late rest]

theorem furtherArgumentTokens_eq (early late : Flavor) :
    ∀ arguments : List Expression,
      furtherArgumentTokens early arguments = furtherArgumentTokens late arguments
  | [] => by rw [furtherArgumentTokens, furtherArgumentTokens]
  | next :: rest => by
      rw [furtherArgumentTokens, furtherArgumentTokens, tokensFor_eq early late next,
        furtherArgumentTokens_eq early late rest]

end

theorem tokensFor_ne_nil (flavor : Flavor) (expression : Expression) :
    expression.tokensFor flavor ≠ [] := by
  cases expression with
  | column table name => cases table <;> simp [tokensFor]
  | integer | string | binary | call | castToTimestamp | extract | parenthesized | verbatim =>
      simp [tokensFor]

/-- Tokens that are made for one flavor have the SQL of the flavor in which they are spelled. -/
theorem spell_tokensFor (early late : Flavor) (expression : Expression) :
    spell late (expression.tokensFor early) = expression.sql late := by
  rw [tokensFor_eq early late, sql]

/-- The tokens of an expression can be made for any flavor, or for none, and be spelled in another
one, alone or at the end of a sequence. A sequence is spelled step by step as it grows, and what is
appended to it is spelled behind it. -/
theorem spell_grown (late : Flavor) :
    (∀ expression : Expression,
      spell late expression.tokens = expression.sql late ∧
        ∀ early, expression.tokensFor early ≠ [] ∧
          spell late (expression.tokensFor early) = expression.sql late ∧
          ∀ tokens, spell late ((Growth.append (expression.tokensFor early)).apply tokens) =
            spell late tokens ++ expression.sql late) ∧
    ∀ tokens steps,
      spell late (Growth.run tokens steps) = Growth.runText late (spell late tokens) steps ∧
        ∀ more moreSteps,
          spell late ((Growth.append (Growth.run more moreSteps)).apply (Growth.run tokens steps)) =
            spell late (Growth.run tokens steps) ++ spell late (Growth.run more moreSteps) := by
  constructor
  · intro expression
    refine ⟨spell_tokensFor default late expression, ?_⟩
    intro early
    refine ⟨tokensFor_ne_nil early expression, spell_tokensFor early late expression, ?_⟩
    intro tokens
    rw [Growth.spell_apply, Growth.applyText, spell_tokensFor]
  · intro tokens steps
    refine ⟨Growth.spell_run late tokens steps, ?_⟩
    intro more moreSteps
    rw [Growth.spell_apply, Growth.applyText]

end Expression

end ImpalaAdapter.Sql
