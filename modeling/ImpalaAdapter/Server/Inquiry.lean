/-
This file describes the questions that a server is asked, and the check of its version.
-/

import ImpalaAdapter.Advisory
import ImpalaAdapter.Server.Version

namespace ImpalaAdapter.Server

inductive Question where
  | validity
  | version
deriving DecidableEq

/-- A probe answers the questions about one server. -/
structure Probe where
  isValid : Bool
  version : Except ProbeError Version

/-- An inquiry asks questions one after the other and ends with a result. -/
inductive Inquiry (Result : Type) where
  | done (result : Result)
  | askValidity (next : Bool → Inquiry Result)
  | askVersion (next : Except ProbeError Version → Inquiry Result)

/-- The questions are listed in the order in which they are asked. -/
def Inquiry.run {Result : Type} (probe : Probe) : Inquiry Result → Result × List Question
  | .done result => (result, [])
  | .askValidity next =>
      let (result, questions) := (next probe.isValid).run probe
      (result, .validity :: questions)
  | .askVersion next =>
      let (result, questions) := (next probe.version).run probe
      (result, .version :: questions)

structure CheckResult where
  answer : Except ProbeError (Advised Bool)
  events : List Event

def probedEvent (version : Version) : Event where
  severity := .debug
  message := "probed server version"
  fields := [("version", version.text), ("legacy_number", version.legacyNumber.text)]

/-- A version that cannot be read or is too old gives an advisory beside the validity. Only a failed
question is an error. -/
def assess (isValid : Bool) : Except ProbeError Version → CheckResult
  | .error (.invalidVersion reported) =>
      let (advised, events) := Advised.raise { value := isValid } (.unreadableServerVersion reported)
      { answer := .ok advised, events := events }
  | .error failure => { answer := .error failure, events := [] }
  | .ok version =>
      if version.isSupported then
        { answer := .ok { value := isValid }, events := [probedEvent version] }
      else
        let (advised, events) := Advised.raise { value := isValid }
          (.unsupportedServerVersion version.legacyNumber (.ofTenths minimumTenths))
        { answer := .ok advised, events := probedEvent version :: events }

def checkConnectivity : Inquiry CheckResult :=
  .askValidity fun isValid => .askVersion fun version => .done (assess isValid version)

end ImpalaAdapter.Server
