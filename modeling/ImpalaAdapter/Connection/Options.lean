/-
This file reads the additional options of a connection.
-/

import ImpalaAdapter.Text.Blank
import ImpalaAdapter.Text.Search

namespace ImpalaAdapter.Connection

/-- Options are divided by ampersands and semicolons. -/
def separatesOptions (character : Char) : Bool :=
  character == '&' || character == ';'

/-- The question marks before the first option mean nothing. -/
def dropQuestionMarks (text : List Char) : List Char :=
  text.dropWhile (· == '?')

/-- The first equals sign divides the key from the value. An entry without one is a key alone. -/
def readOption (entry : List Char) : String × String :=
  match Text.cutAt '=' entry with
  | some (key, value) => (String.ofList (Text.trim key), String.ofList (Text.trim value))
  | none => (String.ofList entry, "")

/-- Blank entries are dropped. -/
def readEntries (text : List Char) : List (String × String) :=
  (((Text.splitAt separatesOptions text).map Text.trim).filter (!·.isEmpty)).map readOption

def readOptions (text : String) : List (String × String) :=
  readEntries (dropQuestionMarks (Text.trim text.toList))

end ImpalaAdapter.Connection
