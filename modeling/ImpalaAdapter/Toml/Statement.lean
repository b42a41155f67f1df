/-
This file reads the statements of a TOML text and fills a table with them.
-/

import ImpalaAdapter.Toml.Scalar

namespace ImpalaAdapter.Toml

inductive Statement where
  | header (path : List String)
  | elementHeader (path : List String)
  | assignment (path : List String) (value : Value)

def isBareKeyCharacter (character : Char) : Bool :=
  character.isAlphanum || character == '_' || character == '-'

/-- A part of a key is quoted or consists of ASCII letters, digits, underscores and hyphens. -/
def readKeyPart : Reader String := fun text =>
  match readLineString text with
  | some (part, rest) => some (String.ofList part, rest)
  | none =>
      let part := text.takeWhile isBareKeyCharacter
      if part.isEmpty then none
      else some (String.ofList part, text.dropWhile isBareKeyCharacter)

/-- Points divide the parts of a key, and spaces can stand around the parts. -/
def readKey : Nat → Reader (List String)
  | 0, _ => none
  | budget + 1, text => do
      let (part, rest) ← readKeyPart (text.dropWhile isSpace)
      match rest.dropWhile isSpace with
      | '.' :: rest =>
          let (parts, rest) ← readKey budget rest
          pure (part :: parts, rest)
      | rest => pure ([part], rest)

/-- Spaces, line breaks and comments mean nothing between the items of an array and between the
statements. -/
def skipBlanks (inComment : Bool) : List Char → Option (List Char)
  | [] => some []
  | '\r' :: '\n' :: rest => skipBlanks false rest
  | character :: rest =>
      if character = '\n' then skipBlanks false rest
      else if inComment then if isPlain character then skipBlanks true rest else none
      else if isSpace character then skipBlanks false rest
      else if character = '#' then skipBlanks true rest
      else some (character :: rest)

/-- Commas divide the items, and one can follow the last item. -/
def readItems {Item : Type} (readItem : Reader Item) (closing : Char) :
    Nat → Reader (List Item)
  | 0, _ => none
  | budget + 1, text => do
      match ← skipBlanks false text with
      | [] => none
      | first :: rest =>
          if first = closing then pure ([], rest)
          else
            let (item, rest) ← readItem (first :: rest)
            match ← skipBlanks false rest with
            | ',' :: rest =>
                let (items, rest) ← readItems readItem closing budget rest
                pure (item :: items, rest)
            | last :: rest => if last = closing then pure ([item], rest) else none
            | [] => none

/-- An assignment has its key, the equals sign and the start of its value on one line. -/
def readAssignment (readValue : Reader Value) : Reader (List String × Value) := fun text => do
  let (path, rest) ← readKey (text.length + 1) text
  match rest with
  | '=' :: rest =>
      let (value, rest) ← readValue (rest.dropWhile isSpace)
      pure ((path, value), rest)
  | _ => none

def Entries.ofAssignments (assignments : List (List String × Value)) : Option Entries :=
  assignments.foldlM (fun entries (path, value) => entries.assign true value path) []

/-- Arrays and inline tables cannot be nested deeper than the given depth. -/
def readValue : Nat → Reader Value
  | depth, '[' :: rest =>
      match depth with
      | 0 => none
      | depth + 1 =>
          (readItems (readValue depth) ']' (rest.length + 1) rest).map fun (items, rest) =>
            (.array items, rest)
  | depth, '{' :: rest =>
      match depth with
      | 0 => none
      | depth + 1 => do
          let (assignments, rest) ←
            readItems (readAssignment (readValue depth)) '}' (rest.length + 1) rest
          let entries ← Entries.ofAssignments assignments
          pure (.table .inline entries, rest)
  | _, text =>
      match readString text with
      | some (string, rest) => some (.string (String.ofList string), rest)
      | none => readBare text

/-- This is the depth of nesting that a text can have. -/
def maximalDepth : Nat := 80

def readHeader (rest : List Char) : Option (List String × List Char) :=
  readKey (rest.length + 1) rest

def readStatement : Reader Statement
  | '[' :: '[' :: rest => do
      let (path, rest) ← readHeader rest
      match rest with
      | ']' :: ']' :: rest => pure (.elementHeader path, rest)
      | _ => none
  | '[' :: rest => do
      let (path, rest) ← readHeader rest
      match rest with
      | ']' :: rest => pure (.header path, rest)
      | _ => none
  | text => do
      let ((path, value), rest) ← readAssignment (readValue maximalDepth) text
      pure (.assignment path value, rest)

/-- After a statement there is only a comment up to the end of the line. -/
def endsLine (text : List Char) : Bool :=
  match text.dropWhile isSpace with
  | [] => true
  | '\n' :: _ => true
  | '\r' :: '\n' :: _ => true
  | '#' :: _ => true
  | _ => false

/-- Every round of the reader uses up a character. -/
def readStatements : Nat → List Char → Option (List Statement)
  | 0, _ => none
  | budget + 1, text => do
      match ← skipBlanks false text with
      | [] => pure []
      | text =>
          let (statement, rest) ← readStatement text
          if endsLine rest then
            let statements ← readStatements budget rest
            pure (statement :: statements)
          else none

/-- The entries so far, and the path of the header above the next statement. -/
structure Progress where
  entries : Entries := []
  header : List String := []

def Progress.follow (current : Progress) : Statement → Option Progress
  | .header path =>
      (current.entries.defineTable path).map fun entries => { entries := entries, header := path }
  | .elementHeader path =>
      (current.entries.addTable path).map fun entries => { entries := entries, header := path }
  | .assignment path value =>
      (current.entries.assignUnder path value current.header).map fun entries =>
        { current with entries := entries }

/-- A text can start with a byte order mark. -/
def dropByteOrderMark (text : List Char) : List Char :=
  match text with
  | '\ufeff' :: rest => rest
  | _ => text

def Entries.ofText? (text : String) : Option Entries := do
  let characters := dropByteOrderMark text.toList
  let statements ← readStatements (characters.length + 1) characters
  let progress ← statements.foldlM Progress.follow {}
  pure progress.entries

end ImpalaAdapter.Toml
