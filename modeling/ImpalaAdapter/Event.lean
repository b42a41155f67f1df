/-
This file describes the events that an operation reports beside its result.
-/

namespace ImpalaAdapter

inductive Severity where
  | debug
  | warning
deriving DecidableEq

/-- An event names each of its fields. -/
structure Event where
  severity : Severity
  message : String
  fields : List (String × String)
deriving DecidableEq

end ImpalaAdapter
