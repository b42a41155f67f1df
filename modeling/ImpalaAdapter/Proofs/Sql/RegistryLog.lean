/-
This file compares a registry with the events that its registrations report.
-/

import ImpalaAdapter.Proofs.Sql.RegistryRun
import Mathlib.Data.List.Nodup

namespace ImpalaAdapter.Sql.Registry

/-- These names are the dialects that a log announces. -/
def announcedNames (events : List Event) : List String :=
  events.filterMap fun event => event.fields.lookup "dialect"

theorem announcedNames_append (events : List Event) (dialect : Dialect) :
    announcedNames (events ++ [registeredEvent dialect]) =
      announcedNames events ++ [dialect.name] := by
  simp [announcedNames, registeredEvent]

namespace Session

def start : Session :=
  { registry := empty, events := [] }

def run (session : Session) (dialects : List Dialect) : Session :=
  dialects.foldl attempt session

variable {session : Session} {dialect : Dialect}

/-- Only the name of the dialect gets a new meaning. -/
theorem find_extend (session : Session) (dialect : Dialect) (name : String) :
    (session.extend dialect).registry.find name =
      if name = dialect.name then .ok dialect else session.registry.find name := by
  rw [find, extend, getElem?_insert]
  by_cases same : name = dialect.name
  · simp [same]
  · simp [same, Ne.symm same, find]

/-- The log has no influence on the registry of a run. -/
theorem registry_run (session : Session) (dialects : List Dialect) :
    (session.run dialects).registry = session.registry.run dialects := by
  induction dialects generalizing session with
  | nil => rfl
  | cons dialect rest inductionHypothesis =>
      change ((session.attempt dialect).run rest).registry =
        (session.registry.attempt dialect).run rest
      rw [inductionHypothesis, registry_attempt]

/-- A faithful log announces each registered dialect once, and reports nothing else. -/
structure Faithful (session : Session) : Prop where
  announces : ∀ event ∈ session.events, ∃ dialect, event = registeredEvent dialect
  distinct : (announcedNames session.events).Nodup
  complete : ∀ name, name ∈ announcedNames session.events ↔ name ∈ session.registry.dialects

theorem faithful_start : start.Faithful where
  announces := by simp [start]
  distinct := by simp [announcedNames, start]
  complete := by simp [announcedNames, start, empty]

/-- The name of an admitted dialect is free, so it was not announced before. -/
theorem Faithful.extend (faithful : session.Faithful) (admitted : session.registry.Admits dialect) :
    (session.extend dialect).Faithful where
  announces := by
    intro event member
    rcases List.mem_append.mp member with older | newest
    · exact faithful.announces event older
    · exact ⟨dialect, List.mem_singleton.mp newest⟩
  distinct := by
    have fresh : dialect.name ∉ announcedNames session.events := by
      rw [faithful.complete]
      exact admitted.1
    rw [Session.extend, announcedNames_append, ← List.concat_eq_append]
    exact faithful.distinct.concat fresh
  complete := by
    intro name
    rw [Session.extend, announcedNames_append, List.mem_append, faithful.complete]
    simp [Registry.insert, or_comm, @eq_comm _ name]

theorem Faithful.attempt (faithful : session.Faithful) (dialect : Dialect) :
    (session.attempt dialect).Faithful := by
  rcases session.attempt_cases dialect with same | ⟨admitted, grown⟩
  · rw [same]
    exact faithful
  · rw [grown]
    exact faithful.extend admitted

theorem Faithful.run (faithful : session.Faithful) (dialects : List Dialect) :
    (session.run dialects).Faithful := by
  induction dialects generalizing session with
  | nil => exact faithful
  | cons dialect rest inductionHypothesis => exact inductionHypothesis (faithful.attempt dialect)

/-- A name that is taken is refused, whatever parent the dialect declares. -/
theorem register_taken (taken : dialect.name ∈ session.registry.names) :
    (register dialect).finish session = (.error (.alreadyRegistered dialect.name), session) ∧
      session.attempt dialect = session := by
  have refused := finish_register_of_mem (mem_names.mp taken)
  exact ⟨refused, congrArg Prod.snd refused⟩

theorem register_orphan {parent : String} (free : dialect.name ∉ session.registry.names)
    (declared : dialect.profile.parent = some parent)
    (unknown : parent ∉ session.registry.names) :
    (register dialect).finish session =
        (.error (.unknownParent dialect.name parent), session) ∧
      session.attempt dialect = session := by
  rw [mem_names] at free unknown
  have refused := finish_register_of_parent_not_mem free declared unknown
  exact ⟨refused, congrArg Prod.snd refused⟩

theorem register_admitted (free : dialect.name ∉ session.registry.names)
    (known : ∀ parent, dialect.profile.parent = some parent → parent ∈ session.registry.names) :
    ∃ next : Session, (register dialect).finish session = (.ok (), next) ∧
      session.attempt dialect = next ∧
      next.events = session.events ++ [registeredEvent dialect] ∧
      ∀ name, next.registry.find name =
        if name = dialect.name then .ok dialect else session.registry.find name := by
  simp only [mem_names] at free known
  have admitted : session.registry.Admits dialect := ⟨free, known⟩
  have accepted := finish_register_of_admits admitted
  exact ⟨_, accepted, congrArg Prod.snd accepted, rfl, session.find_extend dialect⟩

/-- In every session that starts empty, a registration is refused for its taken name first and for
its unknown parent second, and then nothing changes. Any other one gives a meaning to its name
alone and reports one event. So the log announces the registered names once each, and a name keeps
its meaning. -/
theorem run_appendOnly (dialects : List Dialect) :
    let reached := start.run dialects
    (∀ dialect : Dialect,
      (dialect.name ∈ reached.registry.names →
        (register dialect).finish reached = (.error (.alreadyRegistered dialect.name), reached) ∧
          reached.attempt dialect = reached) ∧
      (dialect.name ∉ reached.registry.names →
        (∀ parent, dialect.profile.parent = some parent → parent ∉ reached.registry.names →
          (register dialect).finish reached =
              (.error (.unknownParent dialect.name parent), reached) ∧
            reached.attempt dialect = reached) ∧
        ((∀ parent, dialect.profile.parent = some parent → parent ∈ reached.registry.names) →
          ∃ next : Session, (register dialect).finish reached = (.ok (), next) ∧
            reached.attempt dialect = next ∧
            next.events = reached.events ++ [registeredEvent dialect] ∧
            ∀ name, next.registry.find name =
              if name = dialect.name then .ok dialect else reached.registry.find name))) ∧
    ((∀ event ∈ reached.events, ∃ dialect, event = registeredEvent dialect) ∧
      (announcedNames reached.events).Nodup ∧
      ∀ name, name ∈ announcedNames reached.events ↔ name ∈ reached.registry.names) ∧
    ∀ name dialect, reached.registry.find name = .ok dialect →
      ∀ later, (reached.run later).registry.find name = .ok dialect := by
  intro reached
  have faithful : reached.Faithful := faithful_start.run dialects
  refine ⟨?_, ⟨faithful.announces, faithful.distinct, ?_⟩, ?_⟩
  · intro dialect
    refine ⟨register_taken, fun free => ⟨?_, register_admitted free⟩⟩
    intro parent declared unknown
    exact register_orphan free declared unknown
  · intro name
    rw [mem_names]
    exact faithful.complete name
  · intro name dialect found later
    rw [registry_run, find_eq_ok_iff]
    exact getElem?_run ((find_eq_ok_iff _ _ _).mp found) later

def warehouse : Dialect where
  profile := { name := "warehouse", parent := some "impala" }
  flavor := .impala

/-- The name of this dialect is taken, and its parent is unknown as well. -/
def impostor : Dialect where
  profile := { name := "sql", parent := some "missing" }

/-- The first registration comes too early, and is repeated after the one of its parent. -/
def offered : List Dialect :=
  [warehouse, Flavor.generic.dialect, impostor, Flavor.impala.dialect, warehouse]

theorem run_appendOnly_offered :
    let reached := start.run offered
    announcedNames reached.events = ["sql", "impala", "warehouse"] ∧
    (announcedNames reached.events).Nodup ∧
    (impostor.name ∈ reached.registry.names ∧
      (register impostor).finish reached = (.error (.alreadyRegistered "sql"), reached) ∧
      reached.attempt impostor = reached) ∧
    ((register warehouse).finish (start.run []) =
        (.error (.unknownParent "warehouse" "impala"), start.run []) ∧
      (start.run []).attempt warehouse = start.run []) ∧
    ∀ later, (reached.run later).registry.find "sql" = .ok Flavor.generic.dialect := by
  have taken : impostor.name ∈ (start.run offered).registry.names := by
    decide
  have found : (start.run offered).registry.find "sql" = .ok Flavor.generic.dialect :=
    (find_eq_ok_iff _ _ _).mpr (by decide)
  obtain ⟨outcome, ⟨_, distinct, _⟩, stable⟩ := run_appendOnly offered
  obtain ⟨early, _, _⟩ := run_appendOnly []
  have orphaned := ((early warehouse).2 (by decide)).1 "impala" rfl (by decide)
  exact ⟨by decide, distinct, ⟨taken, (outcome impostor).1 taken⟩, orphaned,
    stable "sql" Flavor.generic.dialect found⟩

end Session

end ImpalaAdapter.Sql.Registry
