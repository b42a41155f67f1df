/-
This file describes the settings: named connections and the level of logging.
-/

import ImpalaAdapter.Connection.Parameters

namespace ImpalaAdapter

inductive SettingsError where
  | fileNotFound (path : String)
  | unreadable (reason : String)
  | malformed (reason : String)
  | missingVariable (name : String)
  | connectionNotFound (name : String)
deriving DecidableEq

def SettingsError.message : SettingsError → String
  | .fileNotFound path => "Config file not found: " ++ path
  | .unreadable reason => "Failed to read config file: " ++ reason
  | .malformed reason => "Failed to parse config file: " ++ reason
  | .missingVariable name => "Missing environment variable: " ++ name
  | .connectionNotFound name => "Connection not found: " ++ name

structure Settings where
  connections : NameTable Connection.Parameters := ∅
  loggingLevel : String := "warn"

namespace Settings

/-- A connection is found as it was written. -/
def connection (settings : Settings) (name : String) :
    Except SettingsError Connection.Parameters :=
  match settings.connections[name]? with
  | some parameters => .ok parameters
  | none => .error (.connectionNotFound name)

/-- The connection `default` comes before the first one by name. -/
def defaultConnection? (settings : Settings) : Option (String × Connection.Parameters) :=
  match settings.connections["default"]? with
  | some parameters => some ("default", parameters)
  | none => settings.connections.toList.head?

end Settings

end ImpalaAdapter
