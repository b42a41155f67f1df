/-
This file writes JSON documents on indented lines.
-/

import ImpalaAdapter.Number.Decimal

namespace ImpalaAdapter

/-- The members of an object keep their order. -/
inductive Json where
  | null
  | boolean (flag : Bool)
  | number (value : Int)
  | decimal (value : Decimal)
  | string (text : String)
  | array (items : List Json)
  | object (members : List (String × Json))

namespace Json

/-- A control character has a short escape or four hexadecimal digits. -/
def escapedControl (character : Char) : String :=
  match character with
  | '\x08' => "\\b"
  | '\t' => "\\t"
  | '\n' => "\\n"
  | '\x0c' => "\\f"
  | '\r' => "\\r"
  | _ =>
      let hexadecimal := Nat.toDigits 16 character.toNat
      "\\u" ++ String.ofList (List.replicate (4 - hexadecimal.length) '0' ++ hexadecimal)

def escapedCharacter (character : Char) : String :=
  if character = '"' then "\\\""
  else if character = '\\' then "\\\\"
  else if character.toNat < 0x20 then escapedControl character
  else String.singleton character

def quoted (text : String) : String :=
  "\"" ++ String.join (text.toList.map escapedCharacter) ++ "\""

/-- A decimal always has a point or an exponent. The exponent is written when the point would stand
far from the figures. -/
def decimalMagnitude (decimal : Decimal) : List Char :=
  let written := digits decimal.coefficient
  let figures := digits (Decimal.dropTrailingZeros decimal.coefficient written.length).1
  let point : Int := written.length + decimal.exponent
  if decimal.coefficient = 0 then "0.0".toList
  else if 0 < point ∧ point ≤ 16 then
    let whole := figures.take point.toNat
    let fraction := figures.drop point.toNat
    whole ++ List.replicate (point.toNat - whole.length) '0' ++ '.' ::
      (if fraction.isEmpty then ['0'] else fraction)
  else if -5 < point ∧ point ≤ 0 then
    "0.".toList ++ List.replicate (-point).toNat '0' ++ figures
  else
    let further := figures.drop 1
    figures.take 1 ++ (if further.isEmpty then [] else '.' :: further) ++ 'e' ::
      signedDigits (point - 1)

def decimalText (decimal : Decimal) : String :=
  String.ofList
    (if decimal.negative then '-' :: decimalMagnitude decimal else decimalMagnitude decimal)

/-- A new line is indented by two spaces for each level. -/
def newLine (level : Nat) : String :=
  "\n" ++ String.ofList (List.replicate (2 * level) ' ')

/-- The parts of an array or object stand on lines of their own, and an empty one on no line. -/
def enclose (opening closing : String) (level : Nat) (parts : List String) : String :=
  if parts.isEmpty then opening ++ closing
  else
    opening ++ newLine (level + 1) ++ ("," ++ newLine (level + 1)).intercalate parts ++
      newLine level ++ closing

mutual

def textAt (level : Nat) : Json → String
  | .null => "null"
  | .boolean flag => if flag then "true" else "false"
  | .number value => toString value
  | .decimal value => decimalText value
  | .string text => quoted text
  | .array items => enclose "[" "]" level (itemTexts (level + 1) items)
  | .object members => enclose "\x7b" "\x7d" level (memberTexts (level + 1) members)

def itemTexts (level : Nat) : List Json → List String
  | [] => []
  | item :: rest => item.textAt level :: itemTexts level rest

def memberTexts (level : Nat) : List (String × Json) → List String
  | [] => []
  | (name, value) :: rest => (quoted name ++ ": " ++ value.textAt level) :: memberTexts level rest

end

def text (json : Json) : String :=
  json.textAt 0

/-- The text of a value that can be absent. -/
def ofOption : Option String → Json
  | some text => .string text
  | none => .null

end Json

end ImpalaAdapter
