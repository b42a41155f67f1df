/-
This file describes a reader of JSON documents whose numbers are whole.
-/

import ImpalaAdapter.Json
import ImpalaAdapter.Proofs.Sql.Reader
import ImpalaAdapter.Toml.Quotation

namespace ImpalaAdapter.Json

open Sql (Reader)
open Sql.Reader (skip)

namespace Reading

/-- Blanks can stand between the tokens of a document. -/
def isSpacing (character : Char) : Bool :=
  [' ', '\n', '\r', '\t'].contains character

def skipSpacing (text : List Char) : List Char :=
  text.dropWhile isSpacing

/-- Behind a backslash these letters stand for a character. -/
def letterEscapes : List (Char × Char) :=
  [('"', '"'), ('\\', '\\'), ('/', '/'), ('b', '\x08'), ('f', '\x0c'), ('n', '\n'), ('r', '\r'),
    ('t', '\t')]

/-- The letter u stands behind a backslash before the four digits of a code. -/
def escape : Reader Char
  | [] => none
  | letter :: rest =>
      if letter = 'u' then
        if 4 ≤ rest.length then
          (Toml.escapedCode? (rest.take 4)).map fun character => (character, rest.drop 4)
        else none
      else (letterEscapes.lookup letter).map fun character => (character, rest)

/-- One round reads one character. The reader starts behind the opening quote. -/
def characters : Nat → Reader (List Char)
  | 0, _ => none
  | _ + 1, [] => none
  | rounds + 1, first :: rest =>
      if first = '"' then some ([], rest)
      else do
        let (character, rest) ← if first = '\\' then escape rest else some (first, rest)
        let (others, rest) ← characters rounds rest
        some (character :: others, rest)

def string : Reader String := fun text =>
  (characters text.length text).map fun found => (String.ofList found.1, found.2)

section
variable {Element : Type} (element : Reader Element) (closing : Char)

/-- Further elements stand behind commas. -/
def furtherElements : Nat → Reader (List Element)
  | 0, _ => none
  | rounds + 1, text =>
      match skipSpacing text with
      | [] => none
      | first :: rest =>
          if first = closing then some ([], rest)
          else if first = ',' then do
            let (next, rest) ← element rest
            let (others, rest) ← furtherElements rounds rest
            some (next :: others, rest)
          else none

/-- The reader starts behind the opening bracket. Where no element starts the bracket is closed. -/
def elements : Reader (List Element) := fun text =>
  match element text with
  | some (first, rest) =>
      (furtherElements element closing rest.length rest).map fun found =>
        (first :: found.1, found.2)
  | none =>
      if (skipSpacing text).head? = some closing then some ([], (skipSpacing text).tail) else none

end

/-- A name stands before a colon. -/
def member (inner : Reader Json) : Reader (String × Json) := fun text => do
  let rest ← skip "\"" (skipSpacing text)
  let (name, rest) ← string rest
  let rest ← skip ":" (skipSpacing rest)
  let (value, rest) ← inner rest
  some ((name, value), rest)

def word : Reader Json := fun text =>
  [("null", Json.null), ("true", .boolean true), ("false", .boolean false)].findSome? fun entry =>
    (skip entry.1 text).map fun rest => (entry.2, rest)

/-- The first character tells the kind of a value, and each round reads values that stand one level
deeper. -/
def value : Nat → Reader Json
  | 0, _ => none
  | depth + 1, text =>
      match skipSpacing text with
      | [] => none
      | first :: rest =>
          if first = '"' then (string rest).map fun found => (.string found.1, found.2)
          else if first = '[' then
            (elements (value depth) ']' rest).map fun found => (.array found.1, found.2)
          else if first = '\x7b' then
            (elements (member (value depth)) '\x7d' rest).map fun found =>
              (.object found.1, found.2)
          else
            (word (first :: rest)).or
              ((Sql.Reader.integer (first :: rest)).map fun found => (.number found.1, found.2))

end Reading

open Reading in
/-- Nothing but blanks stands behind the value of a document. -/
def read? (text : String) : Option Json :=
  match value (text.toList.length + 1) text.toList with
  | some (json, rest) => if rest.all isSpacing then some json else none
  | none => none

end ImpalaAdapter.Json
