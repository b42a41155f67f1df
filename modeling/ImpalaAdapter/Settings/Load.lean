/-
This file finds the settings file and loads it.
-/

import ImpalaAdapter.Event
import ImpalaAdapter.Settings.Decode
import ImpalaAdapter.FileSystem

namespace ImpalaAdapter.Settings

/-- This variable names a settings file. -/
def fileVariable : String := "MANTIS_IMPALA_CONFIG"

/-- The settings file in the working directory. -/
def localPath : String := "mantis-impala.toml"

/-- The settings file of a user, if the directory with the configuration of the user is known. -/
def userPath? (configurationDirectory? : Option String) : Option String :=
  configurationDirectory?.map fun directory =>
    joinPath (joinPath directory "mantis-impala") "config.toml"

/-- The variable decides even when the file is missing. The other two files are used when they
exist, the local one first. -/
def sourcePath? (environment : Environment) (configurationDirectory? : Option String)
    (files : FileSystem) : Option String :=
  match environment.read? fileVariable with
  | some path => some path
  | none =>
      if files.contains localPath then some localPath
      else (userPath? configurationDirectory?).filter files.contains

/-- A load can fail at every step. What it reported before it failed stays reported. -/
abbrev Loading := ExceptT SettingsError (StateM (List Event))

namespace Loading

variable {Value : Type}

def report (event : Event) : Loading Unit :=
  modify fun events => events ++ [event]

/-- The result of a load, and all events that were reported on the way to it. -/
def finish (loading : Loading Value) : Except SettingsError Value × List Event :=
  StateT.run (ExceptT.run loading) []

/-- A load that succeeds hands on its events. -/
def outcome (loading : Loading Value) : Except SettingsError (Value × List Event) :=
  match loading.finish with
  | (.ok value, events) => .ok (value, events)
  | (.error failure, _) => .error failure

end Loading

def loadedEvent (path : String) (settings : Settings) : Event where
  severity := .debug
  message := "loaded settings"
  fields := [("path", path), ("connections", toString settings.connections.size)]

/-- A decoder makes settings from a text, or says why it cannot. -/
abbrev Decoder := String → Except String Settings

def readText (files : FileSystem) (path : String) : Loading String :=
  match files.entry? path with
  | none => throw (.fileNotFound path)
  | some entry =>
      match entry.read with
      | .ok content => pure content
      | .error reason => throw (.unreadable reason)

def decodeText (decode : Decoder) (content : String) : Loading Settings :=
  match decode content with
  | .ok settings => pure settings
  | .error reason => throw (.malformed reason)

def loadPath (decode : Decoder) (files : FileSystem) (path : String) : Loading Settings := do
  let content ← readText files path
  let settings ← decodeText decode content
  Loading.report (loadedEvent path settings)
  pure settings

/-- Without a file the settings are the default ones. -/
def loadFirst (decode : Decoder) (environment : Environment)
    (configurationDirectory? : Option String) (files : FileSystem) : Loading Settings :=
  match sourcePath? environment configurationDirectory? files with
  | some path => loadPath decode files path
  | none => pure {}

/-- A load depends on its surroundings. The refusal words why a text is no TOML file of settings. -/
structure Surroundings where
  environment : Environment
  configurationDirectory? : Option String
  files : FileSystem
  refusal : String → String

namespace Surroundings

variable (surroundings : Surroundings)

def loadFile (path : String) : Except SettingsError (Settings × List Event) :=
  (loadPath (ofToml surroundings.refusal) surroundings.files path).outcome

def load : Except SettingsError (Settings × List Event) :=
  (loadFirst (ofToml surroundings.refusal) surroundings.environment
    surroundings.configurationDirectory? surroundings.files).outcome

end Surroundings

end ImpalaAdapter.Settings
