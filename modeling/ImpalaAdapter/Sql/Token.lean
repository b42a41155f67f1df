/-
This file describes the tokens of SQL and their spelling.
-/

import ImpalaAdapter.Sql.Flavor
import ImpalaAdapter.Number.Numeral

namespace ImpalaAdapter.Sql

inductive Token where
  | asKeyword
  | castKeyword
  | extractKeyword
  | fromKeyword
  | comma
  | dot
  | openParen
  | closeParen
  | plus
  | integerDivision
  | space
  | identifier (name : String)
  | integer (value : Int)
  | string (text : String)
  | functionName (name : String)
  | verbatim (sql : String)
deriving DecidableEq

/-- Verbatim tokens and function names are written as they are. -/
def Token.spelling (flavor : Flavor) : Token → String
  | .asKeyword => "AS"
  | .castKeyword => "CAST"
  | .extractKeyword => "EXTRACT"
  | .fromKeyword => "FROM"
  | .comma => ","
  | .dot => "."
  | .openParen => "("
  | .closeParen => ")"
  | .plus => "+"
  | .integerDivision => flavor.integerDivision
  | .space => " "
  | .identifier name => flavor.profile.quoteStyle.identifier name
  | .integer value => String.ofList (signedDigits value)
  | .string text => quotedString text
  | .functionName name => name
  | .verbatim sql => sql

/-- The spelling of a token sequence has nothing between the tokens. -/
def spell (flavor : Flavor) (tokens : List Token) : String :=
  String.join (tokens.map (Token.spelling flavor))

/-- A token sequence grows at its end, by one token, by another sequence or by a copy of itself. -/
inductive Growth where
  | push (token : Token)
  | append (tokens : List Token)
  | appendSelf
deriving DecidableEq

def Growth.apply (tokens : List Token) : Growth → List Token
  | .push token => tokens ++ [token]
  | .append more => tokens ++ more
  | .appendSelf => tokens ++ tokens

end ImpalaAdapter.Sql
