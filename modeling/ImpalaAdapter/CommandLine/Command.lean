/-
This file describes the commands and reads them from arguments.
-/

import ImpalaAdapter.CommandLine.Arguments
import ImpalaAdapter.Connection.Parameters
import ImpalaAdapter.Number.Reading
import ImpalaAdapter.Sql.Flavor
import ImpalaAdapter.Temporal.Granularity
import ImpalaAdapter.Temporal.Interval

namespace ImpalaAdapter.CommandLine

open Sql Temporal

/-- Parameters that are given with a command replace those of the named connection. -/
structure Overrides where
  host : Option String := none
  port : Option UInt16 := none
  database : Option String := none
  ssl : Bool := false
  options : Option String := none
deriving DecidableEq

inductive Command where
  | describe
  | connect (connection : Option String) (overrides : Overrides)
  | mapType (native : String)
  | humanize (message : String)
  | truncate (granularity : Granularity) (column : String) (flavor : Flavor)
  | dateAdd (column : String) (amount : Binary64) (unit : IntervalUnit) (flavor : Flavor)
deriving DecidableEq

namespace Command

def names : List String :=
  ["describe", "connect", "map-type", "humanize", "truncate", "date-add"]

def describeShape : CommandShape := {}

def connectShape : CommandShape where
  options := [
    { name := "connection", short := some 'c' },
    { name := "host" },
    { name := "port" },
    { name := "database" },
    { name := "ssl", values := .flag },
    { name := "options" }]

/-- The command has one plain argument. -/
def textShape : CommandShape where
  plain := 1

def truncateShape : CommandShape where
  options := [
    { name := "unit", short := some 'u' },
    { name := "column", short := some 'c' },
    { name := "dialect", short := some 'd' }]

/-- An amount can start with a minus sign. -/
def dateAddShape : CommandShape where
  options := [
    { name := "column", short := some 'c' },
    { name := "amount", short := some 'a', values := .lenientValue },
    { name := "unit", short := some 'u' },
    { name := "dialect", short := some 'd' }]

def required {Result : Type} : Option Result → Except Stop Result
  | some result => .ok result
  | none => .error .usage

def optional {Result : Type} (read : String → Option Result) :
    Option String → Except Stop (Option Result)
  | none => .ok none
  | some text => (required (read text)).map some

/-- A port on the command line can have either sign, and only zero can be negative. -/
def readPort? (text : String) : Option UInt16 :=
  match text.toList with
  | '-' :: numeral => (readNumeral? 0 numeral).map UInt16.ofNat
  | characters => Connection.readPort? characters

/-- Impala is the dialect when none is given. -/
def readFlavor? (text : String) : Option Flavor :=
  if text = "impala" then some .impala
  else if text = "generic" then some .generic
  else none

def flavorOf (given : Given) : Except Stop Flavor :=
  (optional readFlavor? (given.option? "dialect")).map fun flavor => flavor.getD .impala

def readConnect (given : Given) : Except Stop Command := do
  let port ← optional readPort? (given.option? "port")
  pure (.connect (given.option? "connection")
    { host := given.option? "host"
      port := port
      database := given.option? "database"
      ssl := (given.option? "ssl").isSome
      options := given.option? "options" })

def readTruncate (given : Given) : Except Stop Command := do
  let unit ← required (given.option? "unit")
  let granularity ← required (Granularity.ofText? unit)
  let column ← required (given.option? "column")
  let flavor ← flavorOf given
  pure (.truncate granularity column flavor)

def readDateAdd (given : Given) : Except Stop Command := do
  let column ← required (given.option? "column")
  let amountText ← required (given.option? "amount")
  let amount ← required (Binary64.ofText? amountText)
  let unitText ← required (given.option? "unit")
  let unit ← required (IntervalUnit.ofText? unitText)
  let flavor ← flavorOf given
  pure (.dateAdd column amount unit flavor)

def readText (command : String → Command) (given : Given) : Except Stop Command :=
  (required given.plain.head?).map command

/-- A request for help can name one command. -/
def readHelp : List String → Stop
  | [] => .help
  | [name] => if name = "help" ∨ name ∈ names then .help else .usage
  | _ => .usage

def ofNamed (name : String) (arguments : List String) : Except Stop Command :=
  match name with
  | "describe" => (describeShape.read arguments none {}).map fun _ => .describe
  | "connect" => connectShape.read arguments none {} >>= readConnect
  | "map-type" => textShape.read arguments none {} >>= readText .mapType
  | "humanize" => textShape.read arguments none {} >>= readText .humanize
  | "truncate" => truncateShape.read arguments none {} >>= readTruncate
  | "date-add" => dateAddShape.read arguments none {} >>= readDateAdd
  | "help" => .error (readHelp arguments)
  | _ => .error (if name ∈ ["-h", "--help", "-V", "--version"] then .help else .usage)

/-- The first argument names the command. -/
def ofArguments : List String → Except Stop Command
  | [] => .error .usage
  | name :: arguments => ofNamed name arguments

end Command

end ImpalaAdapter.CommandLine
