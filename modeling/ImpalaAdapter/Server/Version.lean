/-
This file describes the versions that servers report.
-/

import ImpalaAdapter.Connection.Failure
import ImpalaAdapter.Number.Decimal
import ImpalaAdapter.Text.Blank

namespace ImpalaAdapter.Server

inductive ProbeError where
  | connection (message : String)
  | invalidVersion (reported : String)
deriving DecidableEq

namespace ProbeError

def message : ProbeError → String
  | .connection text => text
  | .invalidVersion reported => "unreadable server version: " ++ reported

/-- Only messages of the driver are explained. -/
def explanation : ProbeError → String
  | .connection text => Connection.explainFailure text
  | .invalidVersion reported => ProbeError.message (.invalidVersion reported)

end ProbeError

structure Version where
  major : UInt32
  minor : UInt32
deriving DecidableEq

namespace Version

def text (version : Version) : String :=
  String.ofList (digits version.major.toNat ++ '.' :: digits version.minor.toNat)

/-- A version component is a numeral of at most 32 bits. -/
def component? (numeral : List Char) : Option UInt32 :=
  (readNumeral? (UInt32.size - 1) numeral).map UInt32.ofNat

/-- The text starts with the major version. One character divides it from the minor version, which
is zero when it cannot be read. -/
def ofText (text : String) : Except ProbeError Version :=
  let trimmed := Text.trim text.toList
  let rest := trimmed.dropWhile isDigit
  match component? (trimmed.takeWhile isDigit) with
  | some major =>
      .ok { major := major, minor := (component? ((rest.drop 1).takeWhile isDigit)).getD 0 }
  | none => .error (.invalidVersion text)

def compare (first second : Version) : Ordering :=
  (Ord.compare first.major.toNat second.major.toNat).then
    (Ord.compare first.minor.toNat second.minor.toNat)

def atLeast (version : Version) (major minor : UInt32) : Bool :=
  (version.compare { major := major, minor := minor }).isGE

/-- The legacy number counts tenths: the major version and the first digit of the minor one. -/
def legacyTenths (version : Version) : Nat :=
  version.major.toNat * 10 + ((digits version.minor.toNat).head?.map digitValue).getD 0

def legacyNumber (version : Version) : Decimal :=
  .ofTenths version.legacyTenths

end Version

/-- Servers below the legacy number 5.7 are not supported. -/
def minimumTenths : Nat := 57

def Version.isSupported (version : Version) : Bool :=
  minimumTenths ≤ version.legacyTenths

end ImpalaAdapter.Server
