/-
This file follows a registry through a run of registrations.
-/

import ImpalaAdapter.Sql.Registry
import Mathlib.Logic.Function.Basic
import Mathlib.Logic.Relation

namespace ImpalaAdapter.Sql.Registry

/-- A dialect is admitted when its name is free and its parent, if it has one, is registered. -/
def Admits (registry : Registry) (dialect : Dialect) : Prop :=
  dialect.name ∉ registry.dialects ∧
    ∀ parent, dialect.profile.parent = some parent → parent ∈ registry.dialects

/-- An attempt leaves a session, whatever its result is. -/
def Session.attempt (session : Session) (dialect : Dialect) : Session :=
  ((register dialect).finish session).2

/-- The log has no influence on a registry, so an attempt can start with an empty one. -/
def attempt (registry : Registry) (dialect : Dialect) : Registry :=
  (Session.attempt { registry := registry } dialect).registry

/-- A run attempts its registrations in order. -/
def run (registry : Registry) (dialects : List Dialect) : Registry :=
  dialects.foldl attempt registry

/-- This session follows the registration of an admitted dialect. -/
def Session.extend (session : Session) (dialect : Dialect) : Session where
  registry := session.registry.insert dialect
  events := session.events ++ [registeredEvent dialect]

section
variable (session : Session) (dialect : Dialect)

/-- The first step of a registration looks at the session. -/
theorem finish_get_bind (step : Session → Registering Unit) :
    Registering.finish (get >>= step) session = (step session).finish session :=
  rfl

/-- A registration is refused before it changes or reports anything. -/
theorem finish_register :
    (register dialect).finish session =
      if dialect.name ∈ session.registry.dialects then
        (.error (.alreadyRegistered dialect.name), session)
      else
        match dialect.profile.parent with
        | some parent =>
            if parent ∈ session.registry.dialects then (.ok (), session.extend dialect)
            else (.error (.unknownParent dialect.name parent), session)
        | none => (.ok (), session.extend dialect) := by
  rw [register, finish_get_bind]
  by_cases taken : dialect.name ∈ session.registry.dialects
  · rw [if_pos taken, if_pos (Std.ExtTreeMap.contains_iff_mem.mpr taken)]
    rfl
  · rw [if_neg taken, if_neg (mt Std.ExtTreeMap.contains_iff_mem.mp taken)]
    cases dialect.profile.parent with
    | none => rfl
    | some parent =>
        by_cases known : parent ∈ session.registry.dialects
        · dsimp only
          rw [if_pos known, if_pos (Std.ExtTreeMap.contains_iff_mem.mpr known)]
          rfl
        · dsimp only
          rw [if_neg known, if_neg (mt Std.ExtTreeMap.contains_iff_mem.mp known)]
          rfl

variable {session dialect}

theorem finish_register_of_mem (taken : dialect.name ∈ session.registry.dialects) :
    (register dialect).finish session = (.error (.alreadyRegistered dialect.name), session) := by
  rw [finish_register, if_pos taken]

theorem finish_register_of_parent_not_mem {parent : String}
    (free : dialect.name ∉ session.registry.dialects)
    (declared : dialect.profile.parent = some parent)
    (unknown : parent ∉ session.registry.dialects) :
    (register dialect).finish session =
      (.error (.unknownParent dialect.name parent), session) := by
  rw [finish_register, if_neg free, declared]
  exact if_neg unknown

theorem finish_register_of_admits (admitted : session.registry.Admits dialect) :
    (register dialect).finish session = (.ok (), session.extend dialect) := by
  obtain ⟨free, known⟩ := admitted
  rw [finish_register, if_neg free]
  cases declared : dialect.profile.parent with
  | none => rfl
  | some parent => exact if_pos (known parent declared)

variable (session dialect)

/-- A registration is refused and changes nothing, or it extends the session. -/
theorem finish_register_cases :
    (∃ failure, (register dialect).finish session = (.error failure, session)) ∨
      session.registry.Admits dialect ∧
        (register dialect).finish session = (.ok (), session.extend dialect) := by
  by_cases taken : dialect.name ∈ session.registry.dialects
  · exact .inl ⟨_, finish_register_of_mem taken⟩
  · cases declared : dialect.profile.parent with
    | none =>
        have admitted : session.registry.Admits dialect := ⟨taken, by simp [declared]⟩
        exact .inr ⟨admitted, finish_register_of_admits admitted⟩
    | some parent =>
        by_cases known : parent ∈ session.registry.dialects
        · have admitted : session.registry.Admits dialect := ⟨taken, by simp [declared, known]⟩
          exact .inr ⟨admitted, finish_register_of_admits admitted⟩
        · exact .inl ⟨_, finish_register_of_parent_not_mem taken declared known⟩

theorem Session.attempt_cases :
    session.attempt dialect = session ∨
      session.registry.Admits dialect ∧ session.attempt dialect = session.extend dialect := by
  rcases finish_register_cases session dialect with ⟨failure, refused⟩ | ⟨admitted, accepted⟩
  · exact .inl (congrArg Prod.snd refused)
  · exact .inr ⟨admitted, congrArg Prod.snd accepted⟩

/-- The log has no influence on the registry. -/
theorem Session.registry_attempt :
    (session.attempt dialect).registry = session.registry.attempt dialect := by
  rw [Session.attempt, Registry.attempt, Session.attempt, finish_register, finish_register]
  split
  · rfl
  · cases dialect.profile.parent with
    | none => rfl
    | some parent =>
        dsimp only
        split <;> rfl

end

theorem attempt_cases (registry : Registry) (dialect : Dialect) :
    registry.attempt dialect = registry ∨
      registry.Admits dialect ∧ registry.attempt dialect = registry.insert dialect := by
  rcases Session.attempt_cases { registry := registry } dialect with same | ⟨admitted, grown⟩
  · exact .inl (congrArg Session.registry same)
  · exact .inr ⟨admitted, congrArg Session.registry grown⟩

theorem getElem?_insert (registry : Registry) (dialect : Dialect) (name : String) :
    (registry.insert dialect).dialects[name]? =
      if dialect.name = name then some dialect else registry.dialects[name]? := by
  simp [insert, Std.ExtTreeMap.getElem?_insert]

/-- The first name is the declared parent of the dialect that is registered under the second. -/
def ParentOf (registry : Registry) (parent child : String) : Prop :=
  ∃ dialect, registry.dialects[child]? = some dialect ∧ dialect.profile.parent = some parent

theorem mem_names {registry : Registry} {name : String} :
    name ∈ registry.names ↔ name ∈ registry.dialects :=
  Std.ExtTreeMap.mem_keys

theorem find_eq_ok_iff (registry : Registry) (name : String) (dialect : Dialect) :
    registry.find name = .ok dialect ↔ registry.dialects[name]? = some dialect := by
  unfold find
  cases registry.dialects[name]? <;> simp

theorem find_of_not_mem {registry : Registry} {name : String} (unknown : name ∉ registry.dialects) :
    registry.find name = .error (.unknownDialect name) := by
  simp [find, Std.ExtTreeMap.getElem?_eq_none unknown]

theorem exists_find {registry : Registry} {name : String} (known : name ∈ registry.dialects) :
    ∃ dialect, registry.dialects[name]? = some dialect := by
  rw [Std.ExtTreeMap.mem_iff_isSome_getElem?] at known
  exact Option.isSome_iff_exists.mp known

/-- A name that is taken refers to the same dialect after every run. -/
theorem getElem?_run {registry : Registry} {name : String} {dialect : Dialect}
    (stored : registry.dialects[name]? = some dialect) (dialects : List Dialect) :
    (registry.run dialects).dialects[name]? = some dialect := by
  induction dialects generalizing registry with
  | nil => exact stored
  | cons next rest inductionHypothesis =>
      apply inductionHypothesis
      rcases registry.attempt_cases next with same | ⟨⟨free, _⟩, grown⟩
      · rw [same]
        exact stored
      · have different : next.name ≠ name := by
          rintro rfl
          exact free (Std.ExtTreeMap.mem_iff_isSome_getElem?.mpr (Option.isSome_of_eq_some stored))
        rw [grown, getElem?_insert, if_neg different]
        exact stored

/-- A sound registry has its dialects under their own names and their parents among them. A rank
that grows from parents to children shows that no dialect is its own ancestor. -/
structure Sound (registry : Registry) : Prop where
  ownName : ∀ {name} {dialect : Dialect},
    registry.dialects[name]? = some dialect → dialect.name = name
  parentRegistered : ∀ {parent child}, registry.ParentOf parent child → parent ∈ registry.dialects
  ranked : ∃ rank : String → Nat,
    ∀ {parent child}, registry.ParentOf parent child → rank parent < rank child

theorem Sound.acyclic {registry : Registry} (sound : registry.Sound) (name : String) :
    ¬ Relation.TransGen registry.ParentOf name name := by
  obtain ⟨rank, grows⟩ := sound.ranked
  have increasing {ancestor descendant : String}
      (path : Relation.TransGen registry.ParentOf ancestor descendant) :
      rank ancestor < rank descendant := by
    induction path with
    | single link => exact grows link
    | tail _ link inductionHypothesis => exact Nat.lt_trans inductionHypothesis (grows link)
  intro cycle
  exact Nat.lt_irrefl _ (increasing cycle)

theorem sound_empty : empty.Sound where
  ownName found := by simp [empty] at found
  parentRegistered := by
    rintro parent child ⟨dialect, found, _⟩
    simp [empty] at found
  ranked := ⟨fun _ => 0, by
    rintro parent child ⟨dialect, found, _⟩
    simp [empty] at found⟩

/-- An admitted dialect has no children yet, so it can take the rank above its parent. -/
theorem Sound.insert {registry : Registry} (sound : registry.Sound) {dialect : Dialect}
    (admitted : registry.Admits dialect) : (registry.insert dialect).Sound := by
  obtain ⟨free, known⟩ := admitted
  have parentCases {parent child : String}
      (link : (registry.insert dialect).ParentOf parent child) :
      child = dialect.name ∧ dialect.profile.parent = some parent ∨
        child ≠ dialect.name ∧ registry.ParentOf parent child := by
    obtain ⟨found, stored, declared⟩ := link
    rw [getElem?_insert] at stored
    split at stored
    case isTrue same =>
      cases stored
      exact .inl ⟨same.symm, declared⟩
    case isFalse different => exact .inr ⟨Ne.symm different, found, stored, declared⟩
  have registered {parent child : String}
      (link : (registry.insert dialect).ParentOf parent child) : parent ∈ registry.dialects := by
    rcases parentCases link with ⟨_, declared⟩ | ⟨_, older⟩
    · exact known parent declared
    · exact sound.parentRegistered older
  constructor
  case ownName =>
    intro name found stored
    rw [getElem?_insert] at stored
    split at stored
    case isTrue same =>
      cases stored
      exact same
    case isFalse => exact sound.ownName stored
  case parentRegistered =>
    intro parent child link
    simp [Registry.insert, registered link]
  case ranked =>
    obtain ⟨rank, grows⟩ := sound.ranked
    refine ⟨Function.update rank dialect.name
      ((dialect.profile.parent.map fun parent => rank parent + 1).getD 0), ?_⟩
    intro parent child link
    have older : parent ≠ dialect.name := by
      rintro rfl
      exact free (registered link)
    rw [Function.update_of_ne older]
    rcases parentCases link with ⟨rfl, declared⟩ | ⟨different, link⟩
    · simp [declared]
    · rw [Function.update_of_ne different]
      exact grows link

theorem Sound.attempt {registry : Registry} (sound : registry.Sound) (dialect : Dialect) :
    (registry.attempt dialect).Sound := by
  rcases registry.attempt_cases dialect with same | ⟨admitted, grown⟩
  · rw [same]
    exact sound
  · rw [grown]
    exact sound.insert admitted

/-- Every run keeps a sound registry sound. -/
theorem Sound.run {registry : Registry} (sound : registry.Sound) (dialects : List Dialect) :
    (registry.run dialects).Sound := by
  induction dialects generalizing registry with
  | nil => exact sound
  | cons dialect rest inductionHypothesis => exact inductionHypothesis (sound.attempt dialect)

/-- The standard registry comes from two admitted registrations. -/
theorem sound_standard : standard.Sound := by
  have generic : empty.Admits Flavor.generic.dialect := by
    refine ⟨by simp [empty], ?_⟩
    intro parent declared
    cases declared
  have impala : (empty.insert Flavor.generic.dialect).Admits Flavor.impala.dialect := by
    have different : Flavor.generic.dialect.name ≠ Flavor.impala.dialect.name := by decide
    refine ⟨by simp [Registry.insert, empty, different], ?_⟩
    intro parent declared
    cases declared
    simp [Registry.insert, Dialect.name, Flavor.dialect, Flavor.profile, Profile.generic]
  exact (sound_empty.insert generic).insert impala

end ImpalaAdapter.Sql.Registry
