/-
This file describes the descriptors that are handed to the transport.
-/

import ImpalaAdapter.Advisory
import ImpalaAdapter.Connection.Options
import ImpalaAdapter.Connection.Parameters
import ImpalaAdapter.Sql.Profile

namespace ImpalaAdapter.Connection

def sslKey : String := "useSSL"

def databaseKey : String := "database"

def trustKey : String := "trustServerCertificate"

/-- These properties hold unless an option sets them. -/
def defaultProperties : List (String × String) := [
  ("characterEncoding", "UTF8"),
  ("useCompression", "true"),
  ("useUnicode", "true"),
  ("zeroDateTimeBehavior", "convertToNull")]

def knownKeys : List String :=
  defaultProperties.map Prod.fst ++ [sslKey, databaseKey, trustKey]

/-- A known key is spelled in one way, whatever the ASCII case in which it was written. -/
def canonicalKey (key : String) : String :=
  (knownKeys.find? fun known => Text.equalsIgnoringCase known key).getD key

/-- The options of a connection have canonical keys. -/
def canonicalOptions (parameters : Parameters) : List (String × String) :=
  (((parameters.additionalOptions.map readOptions).getD []).map fun (key, value) =>
    (canonicalKey key, value))

def enablesSsl (option : String × String) : Bool :=
  option.1 == sslKey && Text.equalsIgnoringCase option.2 "true"

def flagText (flag : Bool) : String :=
  if flag then "true" else "false"

structure Descriptor where
  host : String
  port : UInt16
  database : String
  ssl : Bool
  properties : NameTable String
  tunnel : Option Tunnel := none

namespace Descriptor

/-- Later properties replace earlier ones. -/
def mergeProperties (properties : List (String × String)) : NameTable String :=
  properties.foldl (fun merged property => merged.insert property.1 property.2) ∅

/-- Host and port have defaults, and one option is enough to turn SSL on. -/
def ofParameters (parameters : Parameters) : Descriptor :=
  let options := canonicalOptions parameters
  let ssl := parameters.ssl || options.any enablesSsl
  let host := Text.trimmed parameters.host
  { host := if host.isEmpty then "localhost" else host
    port := parameters.port.getD Sql.Profile.impalaPort
    database := parameters.database
    ssl := ssl
    properties := mergeProperties (defaultProperties ++
      [(sslKey, flagText ssl), (databaseKey, parameters.database)] ++ options)
    tunnel := parameters.tunnel }

/-- The event shows the keys of the options and none of their values. -/
def builtEvent (descriptor : Descriptor) (optionKeys : List String) : Event where
  severity := .debug
  message := "built Impala connection descriptor"
  fields := [("host", descriptor.host), ("port", toString descriptor.port.toNat),
    ("database", descriptor.database), ("ssl", flagText descriptor.ssl),
    ("option_keys", Text.escapedList optionKeys)]

/-- A blank database is refused. An advisory is raised when SSL is on and no option says whether
the server certificate is trusted. -/
def build (parameters : Parameters) :
    Except ConnectionError (Advised Descriptor × List Event) :=
  if Text.isBlankText parameters.database then .error .missingDatabase
  else
    let descriptor := ofParameters parameters
    let optionKeys := (canonicalOptions parameters).map Prod.fst
    let built := descriptor.builtEvent optionKeys
    if descriptor.ssl && !optionKeys.contains trustKey then
      let (advised, events) := Advised.raise { value := descriptor } .untrustedServerCertificate
      .ok (advised, built :: events)
    else .ok ({ value := descriptor }, [built])

def property? (descriptor : Descriptor) (key : String) : Option String :=
  descriptor.properties[key]?

/-- The database is no part of the query. -/
def queryProperties (descriptor : Descriptor) : List (String × String) :=
  descriptor.properties.toList.filter fun property => property.1 != databaseKey

def queryText (descriptor : Descriptor) : String :=
  "&".intercalate (descriptor.queryProperties.map fun (key, value) => key ++ "=" ++ value)

/-- The path of a connection string is the merged database property. -/
def connectionString (descriptor : Descriptor) : String :=
  let database := (descriptor.property? databaseKey).getD descriptor.database
  let address := "impala://" ++ descriptor.host ++ ":" ++ toString descriptor.port.toNat ++ "/" ++
    database
  if descriptor.queryProperties.isEmpty then address else address ++ "?" ++ descriptor.queryText

end Descriptor

end ImpalaAdapter.Connection
