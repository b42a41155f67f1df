/-
This file describes the registry of dialects.
-/

import ImpalaAdapter.Event
import ImpalaAdapter.NameTable
import ImpalaAdapter.Sql.Dialect

namespace ImpalaAdapter.Sql

inductive RegistryError where
  | alreadyRegistered (name : String)
  | unknownParent (dialect parent : String)
  | unknownDialect (name : String)
deriving DecidableEq

def RegistryError.message : RegistryError → String
  | .alreadyRegistered name => "dialect already registered: " ++ name
  | .unknownParent dialect parent =>
      "dialect " ++ dialect ++ " declares unknown parent " ++ parent
  | .unknownDialect name => "unknown dialect: " ++ name

/-- Each dialect stands under its own name. -/
structure Registry where
  dialects : NameTable Dialect

namespace Registry

def empty : Registry :=
  { dialects := ∅ }

def insert (registry : Registry) (dialect : Dialect) : Registry :=
  { dialects := registry.dialects.insert dialect.name dialect }

/-- The standard registry holds the generic dialect and Impala. -/
def standard : Registry :=
  (empty.insert Flavor.generic.dialect).insert Flavor.impala.dialect

def registeredEvent (dialect : Dialect) : Event :=
  { severity := .debug, message := "registered dialect", fields := [("dialect", dialect.name)] }

/-- A session has a registry and the events that were reported so far. -/
structure Session where
  registry : Registry
  events : List Event := []

/-- A registration can fail. What it changed and reported before it failed stays. -/
abbrev Registering := ExceptT RegistryError (StateM Session)

/-- The result of a registration, and the session that it leaves. -/
def Registering.finish (registering : Registering Unit) (session : Session) :
    Except RegistryError Unit × Session :=
  StateT.run (ExceptT.run registering) session

/-- The event is reported before the dialect stands in the registry. -/
def enroll (dialect : Dialect) : Registering Unit := do
  modify fun session => { session with events := session.events ++ [registeredEvent dialect] }
  modify fun session => { session with registry := session.registry.insert dialect }

/-- A name that is taken is refused before a parent that is unknown. -/
def register (dialect : Dialect) : Registering Unit := do
  let session ← get
  if session.registry.dialects.contains dialect.name then
    throw (.alreadyRegistered dialect.name)
  else
    match dialect.profile.parent with
    | some parent =>
        if session.registry.dialects.contains parent then enroll dialect
        else throw (.unknownParent dialect.name parent)
    | none => enroll dialect

def find (registry : Registry) (name : String) : Except RegistryError Dialect :=
  match registry.dialects[name]? with
  | some dialect => .ok dialect
  | none => .error (.unknownDialect name)

def names (registry : Registry) : List String :=
  registry.dialects.keys

/-- One round adds the name of one dialect. The walk stops at a dialect without a parent and before
a name that it would repeat. -/
def followParents (registry : Registry) :
    Nat → List String → Dialect → Except RegistryError (List String)
  | 0, chain, _ => .ok chain
  | rounds + 1, chain, dialect =>
      let chain := chain ++ [dialect.name]
      match dialect.profile.parent with
      | none => .ok chain
      | some parent =>
          if parent ∈ chain then .ok chain
          else
            match registry.find parent with
            | .ok next => registry.followParents rounds chain next
            | .error failure => .error failure

/-- The chain starts with the named dialect and goes on with its ancestors, nearest first. No walk
needs more rounds than there are dialects. -/
def parentChain (registry : Registry) (name : String) : Except RegistryError (List String) :=
  match registry.find name with
  | .ok dialect => registry.followParents registry.dialects.size [] dialect
  | .error failure => .error failure

end Registry

end ImpalaAdapter.Sql
