/-
This file describes the JSON documents that the commands print.
-/

import ImpalaAdapter.Connection.Descriptor
import ImpalaAdapter.Json

namespace ImpalaAdapter.CommandLine

open Connection Sql

def quoteStyleName : QuoteStyle → String
  | .doubleQuote => "double_quote"
  | .backtick => "backtick"

def propertyKindName : PropertyKind → String
  | .string => "string"
  | .integer => "integer"
  | .boolean => "boolean"

/-- A member that can be absent is left out. -/
def optionalMember (name : String) : Option String → List (String × Json)
  | some text => [(name, .string text)]
  | none => []

def propertyJson (property : ConnectionProperty) : Json :=
  .object ([
    ("name", .string property.name),
    ("display_name", .string property.displayName),
    ("kind", .string (propertyKindName property.kind)),
    ("required", .boolean property.required)] ++
    optionalMember "default" property.default ++
    optionalMember "placeholder" property.placeholder)

def profileJson (profile : Profile) : Json :=
  .object [
    ("name", .string profile.name),
    ("display_name", .string profile.displayName),
    ("parent", .ofOption profile.parent),
    ("quote_style", .string (quoteStyleName profile.quoteStyle)),
    ("default_port", (profile.defaultPort.map fun port => Json.number port.toNat).getD .null),
    ("excluded_schemas", .array (profile.excludedSchemas.map .string)),
    ("session_timezone_variable", .ofOption profile.sessionTimezoneVariable),
    ("connection_properties", .array (profile.connectionProperties.map propertyJson))]

def textTableJson (table : NameTable String) : Json :=
  .object (table.toList.map fun (name, text) => (name, .string text))

/-- The members are in the order of their names. -/
def descriptorJson (descriptor : Descriptor) : Json :=
  .object ([
    ("database", .string descriptor.database),
    ("host", .string descriptor.host),
    ("port", .number descriptor.port.toNat),
    ("properties", textTableJson descriptor.properties),
    ("ssl", .boolean descriptor.ssl)] ++
    (match descriptor.tunnel with
      | some tunnel => [("tunnel", textTableJson tunnel)]
      | none => []))

/-- An advisory is shown by its kind and its parts. -/
def advisoryJson (advisory : Advisory) : Json :=
  match advisory with
  | .untrustedServerCertificate => .object [("kind", .string advisory.code)]
  | .unsupportedServerVersion found minimum =>
      .object [("found", .decimal found), ("kind", .string advisory.code),
        ("minimum", .decimal minimum)]
  | .unreadableServerVersion reported =>
      .object [("kind", .string advisory.code), ("reported", .string reported)]

def connectionJson (advised : Advised Descriptor) : Json :=
  .object [
    ("advisories", .array (advised.advisories.map advisoryJson)),
    ("connection_string", .string advised.value.connectionString),
    ("descriptor", descriptorJson advised.value)]

end ImpalaAdapter.CommandLine
