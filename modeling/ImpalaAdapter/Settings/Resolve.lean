/-
This file expands the references in the parameters of a connection.
-/

import ImpalaAdapter.Settings.Reference

namespace ImpalaAdapter.Settings

/-- The values of a tunnel are expanded in the order of their keys, and the keys are kept. -/
def expandTunnel (environment : Environment) (tunnel : Connection.Tunnel) :
    Except SettingsError Connection.Tunnel := do
  let entries ← tunnel.toList.mapM fun (key, value) => do
    let expanded ← expand environment value
    pure (key, expanded)
  pure (.ofList entries)

def expandOptional {Text : Type} (expansion : Text → Except SettingsError Text) :
    Option Text → Except SettingsError (Option Text)
  | none => .ok none
  | some text => (expansion text).map some

/-- The tunnel comes first, then the host, the database and the additional options. -/
def expandParameters (environment : Environment) (parameters : Connection.Parameters) :
    Except SettingsError Connection.Parameters := do
  let tunnel ← expandOptional (expandTunnel environment) parameters.tunnel
  let host ← expand environment parameters.host
  let database ← expand environment parameters.database
  let additionalOptions ← expandOptional (expand environment) parameters.additionalOptions
  pure { parameters with host, database, additionalOptions, tunnel }

def resolvedConnection (settings : Settings) (environment : Environment) (name : String) :
    Except SettingsError Connection.Parameters := do
  let parameters ← settings.connection name
  expandParameters environment parameters

end ImpalaAdapter.Settings
