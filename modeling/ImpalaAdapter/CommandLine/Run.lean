/-
This file runs the commands.
-/

import ImpalaAdapter.CommandLine.Command
import ImpalaAdapter.CommandLine.Report
import ImpalaAdapter.Connection.Failure
import ImpalaAdapter.Settings.Load
import ImpalaAdapter.Settings.Resolve
import ImpalaAdapter.Sql.Dialect
import ImpalaAdapter.Sql.NativeType

namespace ImpalaAdapter.CommandLine

open Connection Sql

/-- A run ends with an exit code. It prints its output, or a line that tells what went wrong. -/
structure Outcome where
  code : UInt32
  output : String := ""
  errorLine : String := ""
deriving DecidableEq

def Outcome.success (line : String) : Outcome :=
  { code := 0, output := line ++ "\n" }

def Outcome.failure (message : String) : Outcome :=
  { code := 1, errorLine := "Error: " ++ message }

def Overrides.apply (overrides : Overrides) (parameters : Parameters) : Parameters :=
  { parameters with
    host := overrides.host.getD parameters.host
    port := overrides.port.or parameters.port
    database := overrides.database.getD parameters.database
    ssl := overrides.ssl || parameters.ssl
    additionalOptions := overrides.options.or parameters.additionalOptions }

/-- Without a name the parameters start from their defaults. -/
def baseParameters (settings : Settings) (environment : Environment) :
    Option String → Except SettingsError Parameters
  | some name => settings.resolvedConnection environment name
  | none => .ok {}

def runConnect (settings : Settings) (environment : Environment) (connection : Option String)
    (overrides : Overrides) : Outcome :=
  match baseParameters settings environment connection with
  | .error failure => .failure failure.message
  | .ok parameters =>
      match Descriptor.build (overrides.apply parameters) with
      | .error failure => .failure failure.message
      | .ok (advised, _) => .success (connectionJson advised).text

def categoryName : FailureCategory → String
  | .unreachable => "Unreachable"
  | .unknownDatabase => "UnknownDatabase"
  | .accessDenied => "AccessDenied"
  | .invalidHostname => "InvalidHostname"

def explainedLine (message : String) : String :=
  match classifyFailure message with
  | some category => explainFailure message ++ " (" ++ categoryName category ++ ")"
  | none => explainFailure message

def columnNamed (name : String) : Expression :=
  .column none name

def runCommand (settings : Settings) (environment : Environment) : Command → Outcome
  | .describe => .success (profileJson .impala).text
  | .connect connection overrides => runConnect settings environment connection overrides
  | .mapType native =>
      .success (NativeType.baseName native ++ " -> " ++ (NativeType.classify native).name)
  | .humanize message => .success (explainedLine message)
  | .truncate granularity column flavor =>
      .success ((flavor.truncation granularity (columnNamed column)).sql flavor)
  | .dateAdd column amount unit flavor =>
      if amount.isFinite then
        .success ((flavor.intervalSum (columnNamed column) amount unit).sql flavor)
      else .failure "amount must be a finite number"

/-- The arguments are read before the settings are loaded, and the settings are loaded before any
command runs. -/
def run (arguments : List String) (surroundings : Settings.Surroundings) : Outcome :=
  match Command.ofArguments arguments with
  | .error .usage => { code := 2 }
  | .error .help => { code := 0 }
  | .ok command =>
      match surroundings.load with
      | .error failure =>
          { code := 1, errorLine := "Error loading settings: " ++ failure.message }
      | .ok (settings, _) => runCommand settings surroundings.environment command

end ImpalaAdapter.CommandLine
