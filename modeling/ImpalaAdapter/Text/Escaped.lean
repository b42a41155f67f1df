/-
This file writes a text on one line, so that its hidden characters can be seen.
-/

import ImpalaAdapter.Text.Visible

namespace ImpalaAdapter.Text

/-- A hidden character is written as its code point in lower-case hexadecimal digits. -/
def escapedCode (character : Char) : List Char :=
  ['\\', 'u', '{'] ++ Nat.toDigits 16 character.toNat ++ ['}']

/-- Double quotes, backslashes, line breaks, tabs and the null character have short forms. -/
def escapedCharacter (character : Char) : List Char :=
  match character with
  | '\x00' => ['\\', '0']
  | '\t' => ['\\', 't']
  | '\n' => ['\\', 'n']
  | '\r' => ['\\', 'r']
  | '"' => ['\\', '"']
  | '\\' => ['\\', '\\']
  | _ => if isVisible character then [character] else escapedCode character

/-- An escaped text stands between double quotes. -/
def escaped (text : String) : String :=
  String.ofList ('"' :: text.toList.flatMap escapedCharacter ++ ['"'])

/-- The escaped texts of a list stand between brackets and are divided by commas. -/
def escapedList (texts : List String) : String :=
  "[" ++ ", ".intercalate (texts.map escaped) ++ "]"

end ImpalaAdapter.Text
