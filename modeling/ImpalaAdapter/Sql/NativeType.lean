/-
This file classifies the types that a server reports for its columns.
-/

import ImpalaAdapter.Text.Blank
import ImpalaAdapter.Text.LetterCase

namespace ImpalaAdapter.Sql

/-- A semantic type is the class of values that a column holds. -/
inductive SemanticType where
  | integer
  | bigInteger
  | text
  | boolean
  | date
  | dateTime
  | decimal
  | float
  | unknown
deriving DecidableEq

namespace SemanticType

def all : List SemanticType :=
  [.integer, .bigInteger, .text, .boolean, .date, .dateTime, .decimal, .float, .unknown]

def name : SemanticType → String
  | .integer => "Integer"
  | .bigInteger => "BigInteger"
  | .text => "Text"
  | .boolean => "Boolean"
  | .date => "Date"
  | .dateTime => "DateTime"
  | .decimal => "Decimal"
  | .float => "Float"
  | .unknown => "Unknown"

def ofName? (name : String) : Option SemanticType :=
  all.find? fun type => type.name == name

def isNumeric : SemanticType → Bool
  | .integer | .bigInteger | .decimal | .float => true
  | _ => false

def isTemporal : SemanticType → Bool
  | .date | .dateTime => true
  | _ => false

end SemanticType

namespace NativeType

/-- The long form of the letter s counts as an s in the modifier `unsigned`. -/
def foldModifierLetter (character : Char) : Char :=
  if character = 'ſ' then 's' else character.toLower

/-- A modifier is a blank, any further blanks and the word `unsigned` at the end of the text. -/
def isModifier (text : List Char) : Bool :=
  match text with
  | [] => false
  | first :: rest =>
      Text.isBlank first &&
        (Text.trimStart rest).map foldModifierLetter == "unsigned".toList

/-- The modifier is dropped from a text that has no blanks at its end. -/
def dropModifier : List Char → List Char
  | [] => []
  | character :: rest =>
      if isModifier (character :: rest) then [] else character :: dropModifier rest

def opensParameters (character : Char) : Bool :=
  character == '(' || character == '<'

/-- The parameters go from the first opening bracket to the end of the text, on one line. -/
def dropParameters : List Char → List Char
  | [] => []
  | character :: rest =>
      if opensParameters character && !rest.contains '\n' then []
      else character :: dropParameters rest

/-- The base name of a type is in upper case and has neither a modifier nor parameters. -/
def baseName (native : String) : String :=
  String.ofList
    (Text.uppercase (Text.trim (dropParameters (dropModifier (Text.trim native.toList)))))

def timestampName : String := "TIMESTAMP"

/-- A base name that Impala does not use is unknown. -/
def ofBaseName (name : String) : SemanticType :=
  if name ∈ ["INT", "SMALLINT", "TINYINT"] then .integer
  else if name = "BIGINT" then .bigInteger
  else if name ∈ ["STRING", "ARRAY", "CHAR", "VARCHAR", "MAP", "STRUCT"] then .text
  else if name = "BOOLEAN" then .boolean
  else if name = "DATE" then .date
  else if name = "DECIMAL" then .decimal
  else if name ∈ ["DOUBLE", "FLOAT"] then .float
  else if name = timestampName then .dateTime
  else .unknown

def classify (native : String) : SemanticType :=
  ofBaseName (baseName native)

end NativeType

end ImpalaAdapter.Sql
