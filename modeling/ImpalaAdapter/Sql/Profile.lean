/-
This file describes the fixed facts about a dialect.
-/

import ImpalaAdapter.Text.LetterCase

namespace ImpalaAdapter.Sql

inductive QuoteStyle where
  | doubleQuote
  | backtick
deriving DecidableEq

/-- The same character opens and closes an identifier. -/
def QuoteStyle.mark : QuoteStyle → Char
  | .doubleQuote => '"'
  | .backtick => '\x60'

inductive PropertyKind where
  | string
  | integer
  | boolean
deriving DecidableEq

/-- A connection property is one entry of the form that asks for a connection. -/
structure ConnectionProperty where
  name : String
  displayName : String
  kind : PropertyKind
  required : Bool := false
  default : Option String := none
  placeholder : Option String := none
deriving DecidableEq

structure Profile where
  name : String
  displayName : String := ""
  parent : Option String := none
  quoteStyle : QuoteStyle := .doubleQuote
  defaultPort : Option UInt16 := none
  excludedSchemas : List String := []
  sessionTimezoneVariable : Option String := none
  connectionProperties : List ConnectionProperty := []
deriving DecidableEq

namespace Profile

def property? (profile : Profile) (name : String) : Option ConnectionProperty :=
  profile.connectionProperties.find? fun property => property.name == name

/-- An excluded schema is hidden in every ASCII case of its name. -/
def excludes (profile : Profile) (schema : String) : Bool :=
  profile.excludedSchemas.any fun excluded => Text.equalsIgnoringCase excluded schema

def generic : Profile where
  name := "sql"
  displayName := "Generic SQL"
  excludedSchemas := ["information_schema"]

/-- Impala daemons answer on this port. -/
def impalaPort : UInt16 := 21050

def impala : Profile where
  name := "impala"
  displayName := "Impala"
  parent := some "sql"
  quoteStyle := .backtick
  defaultPort := some impalaPort
  excludedSchemas := ["default", "_impala_builtins", "_canary"]
  sessionTimezoneVariable := some "@@time_zone"
  connectionProperties := [
    { name := "host", displayName := "Host", kind := .string, default := some "localhost" },
    { name := "port", displayName := "Port", kind := .integer, default := some "21050" },
    { name := "database", displayName := "Database name", kind := .string, required := true,
      placeholder := some "default" },
    { name := "ssl", displayName := "Use a secure connection (SSL)?", kind := .boolean,
      default := some "false" },
    { name := "additional_options", displayName := "Additional connection string options",
      kind := .string, placeholder := some "useSSL=true;trustServerCertificate=true" }]

end Profile

end ImpalaAdapter.Sql
