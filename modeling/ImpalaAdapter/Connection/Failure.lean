/-
This file explains the messages of failed connections.
-/

import ImpalaAdapter.Text.Search

namespace ImpalaAdapter.Connection

inductive FailureCategory where
  | unreachable
  | unknownDatabase
  | accessDenied
  | invalidHostname
deriving DecidableEq

def FailureCategory.explanation : FailureCategory → String
  | .unreachable => "check host and port"
  | .unknownDatabase => "database name incorrect"
  | .accessDenied => "username or password incorrect"
  | .invalidHostname => "invalid hostname"

/-- A rule applies to the messages that hold one of its phrases. -/
structure FailureRule where
  phrases : List String
  category : FailureCategory

namespace FailureRule

def applies (rule : FailureRule) (message : String) : Bool :=
  rule.phrases.any fun phrase => Text.occursIn phrase.toList message.toList

/-- The phrases of a rule are alternatives. -/
def pattern (rule : FailureRule) : String :=
  "|".intercalate rule.phrases

end FailureRule

/-- Earlier rules win over later ones. -/
def failureRules : List FailureRule := [
  { phrases := ["Communications link failure", "no response from server"],
    category := .unreachable },
  { phrases := ["Unknown database"], category := .unknownDatabase },
  { phrases := ["Access denied for user"], category := .accessDenied },
  { phrases := ["Must specify port after ':'"], category := .invalidHostname }]

def classifyFailure (message : String) : Option FailureCategory :=
  (failureRules.find? fun rule => rule.applies message).map fun rule => rule.category

/-- A message that no rule knows explains itself. -/
def explainFailure (message : String) : String :=
  match classifyFailure message with
  | some category => category.explanation
  | none => message

end ImpalaAdapter.Connection
