/-
This file describes the parameters from which a connection is built.
-/

import ImpalaAdapter.Environment
import ImpalaAdapter.NameTable
import ImpalaAdapter.Number.Numeral
import ImpalaAdapter.Text.Blank
import ImpalaAdapter.Text.LetterCase

namespace ImpalaAdapter.Connection

inductive ConnectionError where
  | missingVariable (name : String)
  | missingDatabase
  | invalidPort (text : String)
deriving DecidableEq

/-- The port is looked up in this variable. -/
def portVariable : String := "MANTIS_IMPALA_PORT"

def databaseVariable : String := "MANTIS_IMPALA_DATABASE"

def ConnectionError.message : ConnectionError → String
  | .missingVariable name => "Missing required environment variable: " ++ name
  | .missingDatabase => "Database name is required"
  | .invalidPort text => "Invalid configuration: " ++ portVariable ++ " is not a port: " ++ text

/-- The settings of a tunnel are passed on as they are. -/
abbrev Tunnel := NameTable String

structure Parameters where
  host : String := ""
  port : Option UInt16 := none
  database : String := ""
  ssl : Bool := false
  additionalOptions : Option String := none
  tunnel : Option Tunnel := none

/-- A port is a numeral of at most 16 bits that can follow a plus sign. -/
def readPort? (text : List Char) : Option UInt16 :=
  let numeral :=
    match text with
    | '+' :: rest => rest
    | _ => text
  (readNumeral? (UInt16.size - 1) numeral).map UInt16.ofNat

/-- These words turn SSL on, in any case. -/
def readSsl (text : String) : Bool :=
  String.ofList (Text.lowercase (Text.trim text.toList)) ∈ ["true", "1", "yes"]

namespace Parameters

/-- The database has to be set, and a port that is set has to be valid. -/
def ofEnvironment (environment : Environment) : Except ConnectionError Parameters :=
  match environment.read? databaseVariable with
  | none => .error (.missingVariable databaseVariable)
  | some database =>
      let parameters : Parameters :=
        { host := (environment.read? "MANTIS_IMPALA_HOST").getD ""
          database := database
          ssl := ((environment.read? "MANTIS_IMPALA_SSL").map readSsl).getD false
          additionalOptions := environment.read? "MANTIS_IMPALA_OPTIONS" }
      match environment.read? portVariable with
      | none => .ok parameters
      | some text =>
          match readPort? (Text.trim text.toList) with
          | some port => .ok { parameters with port := some port }
          | none => .error (.invalidPort text)

end Parameters

end ImpalaAdapter.Connection
