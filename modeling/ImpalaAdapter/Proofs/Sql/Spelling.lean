/-
This file follows the spelling of an expression into its parts.
-/

import ImpalaAdapter.Sql.Expression
import ImpalaAdapter.Proofs.Text.Quoted

namespace ImpalaAdapter.Sql

section
variable (flavor : Flavor)

@[simp] theorem spell_nil : spell flavor [] = "" := by
  simp [spell]

@[simp] theorem spell_cons (token : Token) (tokens : List Token) :
    spell flavor (token :: tokens) = token.spelling flavor ++ spell flavor tokens := by
  simp [spell]

/-- Two token sequences are spelled one after the other. -/
@[simp] theorem spell_append (first second : List Token) :
    spell flavor (first ++ second) = spell flavor first ++ spell flavor second := by
  simp [spell]

/-- An operator is spelled between two spaces. -/
def operatorText (operator : BinaryOperator) : List Char :=
  ' ' :: (operator.token.spelling flavor).toList ++ [' ']

end

def Flavor.mark (flavor : Flavor) : Char :=
  flavor.profile.quoteStyle.mark

namespace Expression
variable (flavor : Flavor)

attribute [local simp] tokensFor argumentTokens furtherArgumentTokens Token.spelling

/-- The text of an expression is its SQL, character by character. -/
def text (expression : Expression) : List Char :=
  (expression.sql flavor).toList

/-- Each further argument is written after a comma and a space. -/
def furtherText (arguments : List Expression) : List Char :=
  arguments.flatMap fun argument => ',' :: ' ' :: argument.text flavor

def argumentText : List Expression → List Char
  | [] => []
  | first :: rest => first.text flavor ++ furtherText flavor rest

theorem toList_spell_furtherArgumentTokens (arguments : List Expression) :
    (spell flavor (furtherArgumentTokens flavor arguments)).toList = furtherText flavor arguments := by
  induction arguments with
  | nil => simp [furtherText]
  | cons next rest inductionHypothesis =>
      rw [furtherText, List.flatMap_cons, ← furtherText, ← inductionHypothesis]
      simp [text, sql]

theorem toList_spell_argumentTokens (arguments : List Expression) :
    (spell flavor (argumentTokens flavor arguments)).toList = argumentText flavor arguments := by
  cases arguments with
  | nil => simp [argumentText]
  | cons first rest =>
      simp [argumentText, text, sql, toList_spell_furtherArgumentTokens]

theorem text_bareColumn (name : String) :
    (column none name).text flavor =
      flavor.mark :: Text.doubled flavor.mark name.toList ++ [flavor.mark] := by
  simp [text, sql, QuoteStyle.identifier, Flavor.mark]

theorem text_qualifiedColumn (table name : String) :
    (column (some table) name).text flavor =
      flavor.mark :: Text.doubled flavor.mark table.toList ++
        flavor.mark :: '.' :: flavor.mark :: Text.doubled flavor.mark name.toList ++
          [flavor.mark] := by
  simp [text, sql, QuoteStyle.identifier, Flavor.mark]

theorem text_integer (value : Int) : (integer value).text flavor = signedDigits value := by
  simp [text, sql]

theorem text_string (content : String) :
    (string content).text flavor =
      stringQuote :: Text.doubled stringQuote content.toList ++ [stringQuote] := by
  simp [text, sql, quotedString]

theorem text_binary (left : Expression) (operator : BinaryOperator) (right : Expression) :
    (binary left operator right).text flavor =
      left.text flavor ++ operatorText flavor operator ++ right.text flavor := by
  simp [text, sql, operatorText]

theorem text_call (name : String) (arguments : List Expression) :
    (call name arguments).text flavor =
      name.toList ++ '(' :: argumentText flavor arguments ++ [')'] := by
  simp [text, sql, toList_spell_argumentTokens]

theorem text_castToTimestamp (operand : Expression) :
    (castToTimestamp operand).text flavor =
      "CAST".toList ++ '(' :: operand.text flavor ++ " AS TIMESTAMP)".toList := by
  simp [text, sql]

theorem text_extract (part : DatePart) (operand : Expression) :
    (extract part operand).text flavor =
      "EXTRACT".toList ++ '(' :: part.keyword.toList ++ " FROM ".toList ++
        operand.text flavor ++ [')'] := by
  simp [text, sql]

theorem text_parenthesized (operand : Expression) :
    (parenthesized operand).text flavor = '(' :: operand.text flavor ++ [')'] := by
  simp [text, sql]

theorem sql_verbatim (content : String) : (verbatim content).sql flavor = content := by
  simp [sql]

theorem text_verbatim (sql : String) : (verbatim sql).text flavor = sql.toList := by
  rw [text, sql_verbatim]

theorem sql_call_pair (name : String) (first second : Expression) :
    (call name [first, second]).sql flavor =
      name ++ "(" ++ first.sql flavor ++ ", " ++ second.sql flavor ++ ")" := by
  apply String.toList_injective
  have spelled := text_call flavor name [first, second]
  simpa [argumentText, furtherText, text] using spelled

theorem sql_plus (left right : Expression) :
    (binary left .plus right).sql flavor = left.sql flavor ++ " + " ++ right.sql flavor := by
  apply String.toList_injective
  have spelled := text_binary flavor left .plus right
  have sign : BinaryOperator.plus.token = .plus := rfl
  simpa [operatorText, text, sign] using spelled

end Expression

end ImpalaAdapter.Sql
