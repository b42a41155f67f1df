/-
This file describes TOML values and the rules by which statements fill tables.
-/

import ImpalaAdapter.Number.Binary64

namespace ImpalaAdapter.Toml

/-- A table remembers how it came to be, because that decides what can be added to it. -/
inductive TableKind where
  | inline
  | header
  | element
  | implied
  | dotted
deriving DecidableEq

/-- Dates and times are kept as texts. The tables of `tables` are written with double brackets. -/
inductive Value where
  | string (text : String)
  | integer (number : Int)
  | float (number : Binary64)
  | boolean (flag : Bool)
  | dateTime (text : String)
  | array (items : List Value)
  | tables (elements : List (List (String × Value)))
  | table (kind : TableKind) (entries : List (String × Value))

/-- The entries of a table keep the order in which their keys appeared. -/
abbrev Entries := List (String × Value)

namespace Entries

def find? (entries : Entries) (key : String) : Option Value :=
  entries.lookup key

/-- A new key goes to the end, and the value of an old key is replaced in its place. -/
def put (entries : Entries) (key : String) (value : Value) : Entries :=
  match entries with
  | [] => [(key, value)]
  | (first, old) :: rest =>
      if first = key then (key, value) :: rest else (first, old) :: put rest key value

end Entries

/-- A change goes into a table of an admitted kind, and into the last table of several. -/
def Value.enter? (admitted : TableKind → Bool) (change : TableKind → Entries → Option Entries) :
    Value → Option Value
  | .table kind entries => if admitted kind then (change kind entries).map (.table kind) else none
  | .tables elements =>
      match elements.getLast? with
      | some entries =>
          if admitted .element then
            (change .element entries).map fun changed => .tables (elements.dropLast ++ [changed])
          else none
      | none => none
  | _ => none

namespace TableKind

/-- Dotted keys lead through tables that no header has defined. -/
def admitsDottedKeys : TableKind → Bool
  | .inline | .header => false
  | .element | .implied | .dotted => true

/-- Headers lead through all tables but inline ones. -/
def admitsHeaders : TableKind → Bool
  | .inline => false
  | .header | .element | .implied | .dotted => true

end TableKind

namespace Entries

/-- A dotted key makes the tables that are missing on its path. Its last table has to be made by
dotted keys alone, and its last part has to be new. -/
def assign (isOpen : Bool) (value : Value) : List String → Entries → Option Entries
  | [], _ => none
  | [key], entries =>
      if isOpen && (entries.find? key).isNone then some (entries.put key value) else none
  | key :: path, entries =>
      match entries.find? key with
      | none => (assign true value path []).map fun inner => entries.put key (.table .dotted inner)
      | some child =>
          (child.enter? TableKind.admitsDottedKeys fun kind inner =>
            assign (kind = .dotted) value path inner).map fun changed => entries.put key changed

/-- A header makes the tables that are missing on its path, and defines its last table once. -/
def defineTable : List String → Entries → Option Entries
  | [], _ => none
  | [key], entries =>
      match entries.find? key with
      | none => some (entries.put key (.table .header []))
      | some (.table .implied inner) => some (entries.put key (.table .header inner))
      | some _ => none
  | key :: path, entries =>
      match entries.find? key with
      | none => (defineTable path []).map fun inner => entries.put key (.table .implied inner)
      | some child =>
          (child.enter? TableKind.admitsHeaders fun _ inner => defineTable path inner).map
            fun changed => entries.put key changed

/-- A header in double brackets adds a table to the tables at its path. -/
def addTable : List String → Entries → Option Entries
  | [], _ => none
  | [key], entries =>
      match entries.find? key with
      | none => some (entries.put key (.tables [[]]))
      | some (.tables elements) => some (entries.put key (.tables (elements ++ [[]])))
      | some _ => none
  | key :: path, entries =>
      match entries.find? key with
      | none => (addTable path []).map fun inner => entries.put key (.table .implied inner)
      | some child =>
          (child.enter? TableKind.admitsHeaders fun _ inner => addTable path inner).map
            fun changed => entries.put key changed

/-- An assignment goes into the table of the last header. -/
def assignUnder (path : List String) (value : Value) : List String → Entries → Option Entries
  | [], entries => assign true value path entries
  | key :: header, entries =>
      match entries.find? key with
      | none => none
      | some child =>
          (child.enter? TableKind.admitsHeaders fun _ inner =>
            assignUnder path value header inner).map fun changed => entries.put key changed

end Entries

end ImpalaAdapter.Toml
