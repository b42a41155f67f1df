/-
This file decodes settings from TOML texts. Unknown keys are ignored.
-/

import ImpalaAdapter.Settings.Basic
import ImpalaAdapter.Toml.Statement

namespace ImpalaAdapter.Settings

open Toml

/-- A date or time that stands for a table has this key, and its text is the value. -/
def dateTimeKey : String := "$__toml_private_datetime"

/-- The entries of a value that is read as a table. -/
def entries? : Value → Option Entries
  | .table _ entries => some entries
  | .dateTime text => some [(dateTimeKey, .string text)]
  | _ => none

/-- A record is written as a table, or as an array of its fields in order. -/
def fields? (names : List String) : Value → Option Entries
  | .array items => some (names.zip items)
  | .tables elements => some (names.zip (elements.map (.table .element)))
  | value => entries? value

def string? : Value → Option String
  | .string text => some text
  | _ => none

def flag? : Value → Option Bool
  | .boolean flag => some flag
  | _ => none

/-- A port fits into 16 bits. -/
def port? : Value → Option UInt16
  | .integer number =>
      if 0 ≤ number ∧ number < UInt16.size then some (UInt16.ofNat number.toNat) else none
  | _ => none

/-- A field that is absent has its default, and a field that is present has to be valid. -/
def field {Field : Type} (entries : Entries) (name : String) (default : Field)
    (decode : Value → Option Field) : Option Field :=
  match entries.find? name with
  | some value => decode value
  | none => some default

def optionalField {Field : Type} (entries : Entries) (name : String)
    (decode : Value → Option Field) : Option (Option Field) :=
  field entries name none fun value => (decode value).map some

/-- Every entry of a table of names has to be valid. -/
def nameTable? {Entry : Type} (decode : Value → Option Entry) (value : Value) :
    Option (NameTable Entry) := do
  let entries ← entries? value
  entries.foldlM
    (fun (table : NameTable Entry) (name, value) => do
      let entry ← decode value
      pure (table.insert name entry)) ∅

def parameters? (value : Value) : Option Connection.Parameters := do
  let entries ←
    fields? ["host", "port", "database", "ssl", "additional_options", "tunnel"] value
  let host ← field entries "host" "" string?
  let port ← optionalField entries "port" port?
  let database ← field entries "database" "" string?
  let ssl ← field entries "ssl" false flag?
  let additionalOptions ← optionalField entries "additional_options" string?
  let tunnel ← optionalField entries "tunnel" (nameTable? string?)
  pure { host, port, database, ssl, additionalOptions, tunnel }

def loggingLevel? (value : Value) : Option String := do
  let entries ← fields? ["level"] value
  field entries "level" "warn" string?

def ofEntries? (entries : Entries) : Option Settings := do
  let connections ← field entries "connections" ∅ (nameTable? parameters?)
  let loggingLevel ← field entries "logging" "warn" loggingLevel?
  pure { connections, loggingLevel }

def ofToml? (text : String) : Option Settings := do
  let entries ← Entries.ofText? text
  ofEntries? entries

/-- A text that is no settings file is refused for a reason. -/
def ofToml (refusal : String → String) (text : String) : Except String Settings :=
  match ofToml? text with
  | some settings => .ok settings
  | none => .error (refusal text)

end ImpalaAdapter.Settings
