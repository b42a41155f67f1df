/-
This file reads the quoted strings of TOML. Every reader gives what it read and the characters
after it.
-/

import ImpalaAdapter.Number.Numeral

namespace ImpalaAdapter.Toml

abbrev Reader (Result : Type) := List Char → Option (Result × List Char)

def apostrophe : Char := '\x27'

/-- Tabs are the only control characters in comments and strings. -/
def isPlain (character : Char) : Bool :=
  character == '\t' || (0x20 ≤ character.toNat && character.toNat != 0x7F)

def isSpace (character : Char) : Bool :=
  character == ' ' || character == '\t'

def hexadecimalValue? (character : Char) : Option Nat :=
  if isDigit character then some (digitValue character)
  else if 'a' ≤ character ∧ character ≤ 'f' then some (character.toNat - 'a'.toNat + 10)
  else if 'A' ≤ character ∧ character ≤ 'F' then some (character.toNat - 'A'.toNat + 10)
  else none

/-- The digits of an escape give the code point of a character. -/
def escapedCode? (digits : List Char) : Option Char :=
  match digits.mapM hexadecimalValue? with
  | some values =>
      let code := valueInBase 16 values
      if code.isValidChar then some (Char.ofNat code) else none
  | none => none

/-- These escapes consist of one letter or sign. -/
def shortEscape? (letter : Char) : Option Char :=
  match letter with
  | 'b' => some '\x08'
  | 't' => some '\t'
  | 'n' => some '\n'
  | 'f' => some '\x0c'
  | 'r' => some '\r'
  | 'e' => some '\x1b'
  | '"' => some '"'
  | '\\' => some '\\'
  | _ => none

/-- The number of hexadecimal digits after the letter of an escape. -/
def escapeLength? (letter : Char) : Option Nat :=
  match letter with
  | 'x' => some 2
  | 'u' => some 4
  | 'U' => some 8
  | _ => none

/-- An escape starts after its backslash. -/
def readEscape : Reader Char
  | [] => none
  | letter :: rest =>
      match shortEscape? letter, escapeLength? letter with
      | some character, _ => some (character, rest)
      | none, some length =>
          if rest.length < length then none
          else (escapedCode? (rest.take length)).map fun character => (character, rest.drop length)
      | none, none => none

theorem readEscape_shorter {text rest : List Char} {character : Char}
    (read : readEscape text = some (character, rest)) : rest.length < text.length := by
  unfold readEscape at read
  split at read
  · cases read
  · split at read
    · cases read; simp
    · split at read
      · cases read
      · obtain ⟨_, _, equal⟩ := Option.map_eq_some_iff.1 read
        cases equal
        simp only [List.length_drop, List.length_cons]
        omega
    · cases read

/-- The reader starts after the opening quote. A string ends on its line. -/
def readBasic (text : List Char) : Option (List Char × List Char) :=
  match text with
  | [] => none
  | '"' :: rest => some ([], rest)
  | '\\' :: rest =>
      match read : readEscape rest with
      | some (character, after) =>
          have : after.length < rest.length := readEscape_shorter read
          (readBasic after).map fun (string, remaining) => (character :: string, remaining)
      | none => none
  | character :: rest =>
      if isPlain character then
        (readBasic rest).map fun (string, remaining) => (character :: string, remaining)
      else none
termination_by text.length

/-- A literal string has no escapes. -/
def readLiteral : Reader (List Char)
  | [] => none
  | character :: rest =>
      if character = apostrophe then some ([], rest)
      else if isPlain character then
        (readLiteral rest).map fun (string, remaining) => (character :: string, remaining)
      else none

/-- Up to two quotes before the three closing ones belong to the string. -/
def readClosing (quote : Char) (text : List Char) : Option (List Char × List Char) :=
  let count := (text.takeWhile (· = quote)).length
  if count < 3 then none
  else
    let inner := min (count - 3) 2
    some (List.replicate inner quote, text.drop (inner + 3))

/-- A line break is a line feed, alone or after a carriage return. -/
def readLineBreak : Reader (List Char)
  | '\n' :: rest => some (['\n'], rest)
  | '\r' :: '\n' :: rest => some (['\r', '\n'], rest)
  | _ => none

theorem readLineBreak_shorter {text lineBreak rest : List Char}
    (read : readLineBreak text = some (lineBreak, rest)) : rest.length < text.length := by
  unfold readLineBreak at read
  split at read <;> cases read <;> simp only [List.length_cons] <;> omega

/-- A line break right after the opening quotes is no part of the string. -/
def dropLineBreak (text : List Char) : List Char :=
  match readLineBreak text with
  | some (_, rest) => rest
  | none => text

/-- A backslash at the end of a line joins the line with the next character that is not blank. -/
inductive Joining where
  | none
  | untilLineBreak
  | untilText
deriving DecidableEq

/-- The reader starts after the three opening quotes. -/
def readMultilineBasic (joining : Joining) (text : List Char) : Option (List Char × List Char) :=
  match text with
  | [] => none
  | character :: rest =>
      if joining ≠ .none ∧ isSpace character then readMultilineBasic joining rest
      else
        match read : readLineBreak (character :: rest) with
        | some (lineBreak, after) =>
            have : after.length < (character :: rest).length := readLineBreak_shorter read
            if joining = .none then
              (readMultilineBasic .none after).map fun (string, remaining) =>
                (lineBreak ++ string, remaining)
            else readMultilineBasic .untilText after
        | none =>
            if joining = .untilLineBreak then none
            else if character = '"' then
              match readClosing '"' (character :: rest) with
              | some closed => some closed
              | none =>
                  (readMultilineBasic .none rest).map fun (string, remaining) =>
                    (character :: string, remaining)
            else if character = '\\' then
              match escape : readEscape rest with
              | some (escaped, after) =>
                  have : after.length < rest.length := readEscape_shorter escape
                  (readMultilineBasic .none after).map fun (string, remaining) =>
                    (escaped :: string, remaining)
              | none => readMultilineBasic .untilLineBreak rest
            else if isPlain character then
              (readMultilineBasic .none rest).map fun (string, remaining) =>
                (character :: string, remaining)
            else none
termination_by text.length
decreasing_by all_goals (try simp only [List.length_cons] at *); omega

/-- The reader starts after the three opening apostrophes. -/
def readMultilineLiteral (text : List Char) : Option (List Char × List Char) :=
  match text with
  | [] => none
  | character :: rest =>
      match read : readLineBreak (character :: rest) with
      | some (lineBreak, after) =>
          have : after.length < (character :: rest).length := readLineBreak_shorter read
          (readMultilineLiteral after).map fun (string, remaining) =>
            (lineBreak ++ string, remaining)
      | none =>
          match readClosing apostrophe (character :: rest) with
          | some closed => some closed
          | none =>
              if isPlain character then
                (readMultilineLiteral rest).map fun (string, remaining) =>
                  (character :: string, remaining)
              else none
termination_by text.length
decreasing_by all_goals (try simp only [List.length_cons] at *); omega

/-- A string of one line starts with one quote. -/
def readLineString : Reader (List Char)
  | '"' :: rest => readBasic rest
  | '\x27' :: rest => readLiteral rest
  | _ => none

def readString : Reader (List Char)
  | '"' :: '"' :: '"' :: rest => readMultilineBasic .none (dropLineBreak rest)
  | '\x27' :: '\x27' :: '\x27' :: rest => readMultilineLiteral (dropLineBreak rest)
  | text => readLineString text

end ImpalaAdapter.Toml
