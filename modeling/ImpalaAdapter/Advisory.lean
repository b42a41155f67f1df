/-
This file describes advisories: notices that come with a value and never change it.
-/

import ImpalaAdapter.Event
import ImpalaAdapter.Number.Decimal
import ImpalaAdapter.Text.Escaped

namespace ImpalaAdapter

inductive Advisory where
  | untrustedServerCertificate
  | unsupportedServerVersion (found minimum : Decimal)
  | unreadableServerVersion (reported : String)
deriving DecidableEq

namespace Advisory

/-- The code of an advisory stays the same when its message changes. -/
def code : Advisory → String
  | .untrustedServerCertificate => "ssl_without_trust_server_certificate"
  | .unsupportedServerVersion .. => "unsupported_server_version"
  | .unreadableServerVersion .. => "unreadable_server_version"

def message : Advisory → String
  | .untrustedServerCertificate =>
      "SSL is enabled without trustServerCertificate; the server certificate must be " ++
        "trusted by the client trust store"
  | .unsupportedServerVersion found minimum =>
      "server version " ++ found.text ++ " is below the supported minimum " ++ minimum.text
  | .unreadableServerVersion reported =>
      "could not read server version from " ++ Text.escaped reported

def event (advisory : Advisory) : Event :=
  { severity := .warning, message := advisory.message, fields := [("advisory", advisory.code)] }

end Advisory

/-- An advised value carries its advisories in the order in which they were raised. -/
structure Advised (Value : Type) where
  value : Value
  advisories : List Advisory := []
deriving DecidableEq

namespace Advised

/-- Raising an advisory records it and reports it at once. -/
def raise {Value : Type} (advised : Advised Value) (advisory : Advisory) :
    Advised Value × List Event :=
  ({ advised with advisories := advised.advisories ++ [advisory] }, [advisory.event])

def hasAdvisories {Value : Type} (advised : Advised Value) : Bool :=
  !advised.advisories.isEmpty

def map {Value Image : Type} (function : Value → Image) (advised : Advised Value) :
    Advised Image :=
  { value := function advised.value, advisories := advised.advisories }

end Advised

end ImpalaAdapter
