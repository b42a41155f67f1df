/-
This file says which dialects can all be registered, and shows that their order does not matter.
-/

import ImpalaAdapter.Proofs.Sql.RegistryRun
import Mathlib.Data.List.Nodup
import Mathlib.Data.List.Perm.Basic
import Mathlib.Data.List.Rotate

namespace ImpalaAdapter.Sql.Registry

/-- A registration that succeeds hands on its registry. -/
def accept (registry : Registry) (dialect : Dialect) : Except RegistryError Registry :=
  match (register dialect).finish { registry := registry } with
  | (.ok (), session) => .ok session.registry
  | (.error failure, _) => .error failure

/-- The registrations are made in order, up to the first one that is refused. -/
def registerAll (registry : Registry) (dialects : List Dialect) : Except RegistryError Registry :=
  dialects.foldlM accept registry

/-- The registry holds these dialects under their names, and no others. -/
def Holds (registry : Registry) (dialects : List Dialect) : Prop :=
  ∀ name dialect, registry.dialects[name]? = some dialect ↔
    dialect ∈ dialects ∧ dialect.name = name

/-- The first dialect declares the second one, from the list, as its parent. -/
def DeclaresIn (dialects : List Dialect) (child parent : Dialect) : Prop :=
  parent ∈ dialects ∧ child.profile.parent = some parent.name

/-- Declared parents lead from the dialect to one that has no parent. -/
def ReachesRoot (dialects : List Dialect) (dialect : Dialect) : Prop :=
  ∃ root, Relation.ReflTransGen (DeclaresIn dialects) dialect root ∧ root.profile.parent = none

theorem ReachesRoot.of_parent_eq_none {dialects : List Dialect} {dialect : Dialect}
    (isRoot : dialect.profile.parent = none) : ReachesRoot dialects dialect :=
  ⟨dialect, .refl, isRoot⟩

theorem ReachesRoot.of_declaresIn {dialects : List Dialect} {child parent : Dialect}
    (declares : DeclaresIn dialects child parent) (reaches : ReachesRoot dialects parent) :
    ReachesRoot dialects child := by
  obtain ⟨root, path, isRoot⟩ := reaches
  exact ⟨root, .head declares path, isRoot⟩

/-- More dialects take no way to a root away. -/
theorem ReachesRoot.mono {dialects others : List Dialect} {dialect : Dialect}
    (subset : dialects ⊆ others) (reaches : ReachesRoot dialects dialect) :
    ReachesRoot others dialect := by
  obtain ⟨root, path, isRoot⟩ := reaches
  have kept : ∀ child parent, DeclaresIn dialects child parent → DeclaresIn others child parent :=
    fun _ _ declares => ⟨subset declares.1, declares.2⟩
  exact ⟨root, Relation.ReflTransGen.mono kept _ _ path, isRoot⟩

variable {registry reached : Registry} {dialect : Dialect} {done rest : List Dialect}

theorem registerAll_nil (registry : Registry) : registry.registerAll [] = .ok registry :=
  rfl

theorem accept_eq_ok_iff :
    registry.accept dialect = .ok reached ↔
      registry.Admits dialect ∧ registry.insert dialect = reached := by
  unfold accept
  constructor
  · intro succeeds
    rcases finish_register_cases { registry := registry } dialect with
      ⟨failure, refused⟩ | ⟨admitted, accepted⟩
    · rw [refused] at succeeds
      cases succeeds
    · rw [accepted] at succeeds
      cases succeeds
      exact ⟨admitted, rfl⟩
  · rintro ⟨admitted, rfl⟩
    rw [finish_register_of_admits admitted]
    rfl

theorem registerAll_cons_eq_ok_iff :
    registry.registerAll (dialect :: rest) = .ok reached ↔
      registry.Admits dialect ∧ (registry.insert dialect).registerAll rest = .ok reached := by
  rw [registerAll, List.foldlM_cons]
  cases outcome : registry.accept dialect with
  | error failure =>
      constructor
      · intro succeeds
        cases succeeds
      · rintro ⟨admitted, _⟩
        rw [accept_eq_ok_iff.mpr ⟨admitted, rfl⟩] at outcome
        cases outcome
  | ok next =>
      obtain ⟨admitted, rfl⟩ := accept_eq_ok_iff.mp outcome
      exact (and_iff_right admitted).symm

theorem holds_empty : empty.Holds [] := by
  simp [Holds, empty]

theorem Holds.mem_iff (holds : registry.Holds done) {name : String} :
    name ∈ registry.dialects ↔ ∃ dialect ∈ done, dialect.name = name := by
  rw [Std.ExtTreeMap.mem_iff_isSome_getElem?, Option.isSome_iff_exists]
  simp only [holds name]

/-- The name of an admitted dialect is free, so the other names keep their dialects. -/
theorem Holds.insert (holds : registry.Holds done) (admitted : registry.Admits dialect) :
    (registry.insert dialect).Holds (done ++ [dialect]) := by
  intro name found
  rw [getElem?_insert, List.mem_append, List.mem_singleton]
  by_cases same : dialect.name = name
  · have fresh : ¬ (found ∈ done ∧ found.name = name) := by
      rintro ⟨member, named⟩
      exact admitted.1 (holds.mem_iff.mpr ⟨found, member, named.trans same.symm⟩)
    rw [if_pos same, Option.some.injEq]
    constructor
    · rintro rfl
      exact ⟨.inr rfl, same⟩
    · rintro ⟨member | rfl, named⟩
      · exact absurd ⟨member, named⟩ fresh
      · rfl
  · have other : found = dialect → found.name ≠ name := by
      rintro rfl
      exact same
    rw [if_neg same, holds name found]
    tauto

/-- A registry is known from the dialects that it holds, whatever their order. -/
theorem Holds.eq_of_perm {other : Registry} {others : List Dialect} (holds : registry.Holds done)
    (holdsOther : other.Holds others) (same : done.Perm others) : registry = other := by
  obtain ⟨dialects⟩ := registry
  obtain ⟨otherDialects⟩ := other
  congr 1
  apply Std.ExtTreeMap.ext_getElem?
  intro name
  apply Option.ext
  intro dialect
  rw [holds name dialect, holdsOther name dialect, same.mem_iff]

/-- Registrations that succeed add their dialects. -/
theorem Holds.registerAll (holds : registry.Holds done)
    (succeeds : registry.registerAll rest = .ok reached) : reached.Holds (done ++ rest) := by
  induction rest generalizing registry done with
  | nil =>
      cases succeeds
      rwa [List.append_nil]
  | cons dialect rest inductionHypothesis =>
      obtain ⟨admitted, succeeds⟩ := registerAll_cons_eq_ok_iff.mp succeeds
      have longer := inductionHypothesis (holds.insert admitted) succeeds
      rwa [List.append_assoc, List.singleton_append] at longer

/-- The parent of an admitted dialect is held already, and so is its way to a root. -/
theorem Holds.reachesRoot_of_admits (holds : registry.Holds done)
    (rooted : ∀ other ∈ done, ReachesRoot done other) (admitted : registry.Admits dialect) :
    ∀ other ∈ done ++ [dialect], ReachesRoot (done ++ [dialect]) other := by
  have subset : done ⊆ done ++ [dialect] := List.subset_append_left ..
  intro other member
  rcases List.mem_append.mp member with older | newest
  · exact (rooted other older).mono subset
  · rw [List.mem_singleton.mp newest]
    cases declared : dialect.profile.parent with
    | none => exact .of_parent_eq_none declared
    | some name =>
        obtain ⟨parent, held, rfl⟩ := holds.mem_iff.mp (admitted.2 name declared)
        exact .of_declaresIn ⟨subset held, declared⟩ ((rooted parent held).mono subset)

/-- When all registrations succeed, each dialect has its way to a root among them. -/
theorem Holds.reachesRoot_of_registerAll (holds : registry.Holds done)
    (rooted : ∀ other ∈ done, ReachesRoot done other)
    (succeeds : registry.registerAll rest = .ok reached) :
    ∀ other ∈ done ++ rest, ReachesRoot (done ++ rest) other := by
  induction rest generalizing registry done with
  | nil => rwa [List.append_nil]
  | cons dialect rest inductionHypothesis =>
      obtain ⟨admitted, succeeds⟩ := registerAll_cons_eq_ok_iff.mp succeeds
      have longer := inductionHypothesis (holds.insert admitted)
        (holds.reachesRoot_of_admits rooted admitted) succeeds
      rwa [List.append_assoc, List.singleton_append] at longer

/-- On the way from a remaining dialect to its root there is one that can be registered next: the
last one before a dialect that is registered, or the root itself. -/
theorem Holds.exists_admits (holds : registry.Holds done)
    (distinct : ((done ++ rest).map Dialect.name).Nodup) (remaining : dialect ∈ rest)
    (reaches : ReachesRoot (done ++ rest) dialect) : ∃ next ∈ rest, registry.Admits next := by
  have free {other : Dialect} (member : other ∈ rest) : other.name ∉ registry.dialects := by
    intro taken
    obtain ⟨older, held, named⟩ := holds.mem_iff.mp taken
    rw [List.map_append, List.nodup_append] at distinct
    exact distinct.2.2 _ (List.mem_map_of_mem held) _ (List.mem_map_of_mem member) named
  obtain ⟨root, path, isRoot⟩ := reaches
  induction path using Relation.ReflTransGen.head_induction_on with
  | refl =>
      refine ⟨root, remaining, free remaining, ?_⟩
      simp [isRoot]
  | @head child parent declares _ inductionHypothesis =>
      rcases List.mem_append.mp declares.1 with held | further
      · refine ⟨child, remaining, free remaining, ?_⟩
        intro name declared
        rw [declares.2] at declared
        cases declared
        exact holds.mem_iff.mpr ⟨parent, held, rfl⟩
      · exact inductionHypothesis further

/-- Dialects with distinct names and with ways to roots can be registered one after the other. Each
round moves one of them from the remaining dialects to the registered ones. -/
theorem Holds.exists_order (holds : registry.Holds done)
    (distinct : ((done ++ rest).map Dialect.name).Nodup)
    (rooted : ∀ other ∈ rest, ReachesRoot (done ++ rest) other) :
    ∃ order reached, order.Perm rest ∧ registry.registerAll order = .ok reached := by
  induction count : rest.length generalizing registry done rest with
  | zero =>
      rw [List.length_eq_zero_iff.mp count]
      exact ⟨[], registry, .refl _, registerAll_nil registry⟩
  | succ count inductionHypothesis =>
      obtain ⟨first, member⟩ : ∃ first, first ∈ rest :=
        List.exists_mem_of_length_pos (by omega)
      obtain ⟨next, remaining, admitted⟩ :=
        holds.exists_admits distinct member (rooted first member)
      have moved : (done ++ [next] ++ rest.erase next).Perm (done ++ rest) := by
        rw [List.append_assoc, List.singleton_append]
        exact (List.perm_cons_erase remaining).symm.append_left done
      obtain ⟨order, reached, same, succeeds⟩ := inductionHypothesis (holds.insert admitted)
        ((moved.map Dialect.name).nodup_iff.mpr distinct)
        (fun other later => (rooted other (List.mem_of_mem_erase later)).mono moved.symm.subset)
        (by rw [List.length_erase_of_mem remaining]; omega)
      exact ⟨next :: order, reached, (same.cons next).trans (List.perm_cons_erase remaining).symm,
        registerAll_cons_eq_ok_iff.mpr ⟨admitted, succeeds⟩⟩

/-- Some order of dialects with distinct names has all of them registered exactly when each one is
led to a root by the parents that are declared among them. All such orders give one registry, and
each name refers to its dialect there. -/
theorem registerAll_orders {dialects : List Dialect}
    (distinct : (dialects.map Dialect.name).Nodup) :
    ((∃ order reached, order.Perm dialects ∧ empty.registerAll order = .ok reached) ↔
      ∀ dialect ∈ dialects, ReachesRoot dialects dialect) ∧
    ∀ first second reached other, first.Perm dialects → second.Perm dialects →
      empty.registerAll first = .ok reached → empty.registerAll second = .ok other →
        (∀ name dialect, reached.find name = .ok dialect ↔
          dialect ∈ dialects ∧ dialect.name = name) ∧
        reached.names = other.names ∧
        (∀ name, reached.find name = other.find name) ∧
        ∀ name, reached.parentChain name = other.parentChain name := by
  constructor
  · constructor
    · rintro ⟨order, reached, same, succeeds⟩ dialect member
      have rooted := holds_empty.reachesRoot_of_registerAll (by simp) succeeds
      exact (rooted dialect (same.mem_iff.mpr member)).mono same.subset
    · intro rooted
      exact holds_empty.exists_order distinct rooted
  · intro first second reached other same sameOther succeeds succeedsOther
    have holds := holds_empty.registerAll succeeds
    have equal : reached = other :=
      holds.eq_of_perm (holds_empty.registerAll succeedsOther) (same.trans sameOther.symm)
    refine ⟨?_, ?_⟩
    · intro name dialect
      rw [find_eq_ok_iff, holds name dialect, List.nil_append, same.mem_iff]
    · rw [equal]
      exact ⟨rfl, fun _ => rfl, fun _ => rfl⟩

/-- A child comes before its parent here, and two of the dialects have no parent. -/
def family : List Dialect := [
  { profile := { name := "warehouse", parent := some "impala" }, flavor := .impala },
  Flavor.impala.dialect,
  Flavor.generic.dialect,
  { profile := { name := "archive" } }]

/-- These dialects declare each other, and no parent leads out of the pair. -/
def pair : List Dialect := [
  { profile := { name := "left", parent := some "right" } },
  { profile := { name := "right", parent := some "left" } }]

theorem not_reachesRoot_pair (dialect : Dialect) (member : dialect ∈ pair) :
    ¬ ReachesRoot pair dialect := by
  rintro ⟨root, path, isRoot⟩
  have inside : root ∈ pair := by
    cases path with
    | refl => exact member
    | tail _ declares => exact declares.1
  have declares : ∀ other ∈ pair, other.profile.parent ≠ none := by decide
  exact declares root inside isRoot

/-- The family can be registered from its last dialect to its first one, and its two roots can
change places. The pair cannot be registered. -/
theorem registerAll_orders_family :
    (family.map Dialect.name).Nodup ∧ (pair.map Dialect.name).Nodup ∧
      (∀ dialect ∈ family, ReachesRoot family dialect) ∧
      (∃ reached other, empty.registerAll family.reverse = .ok reached ∧
        empty.registerAll (family.reverse.rotate 1) = .ok other ∧
        reached.names = other.names ∧
        reached.parentChain "warehouse" = other.parentChain "warehouse" ∧
        reached.find "archive" = .ok { profile := { name := "archive" } }) ∧
      ¬ ∃ order reached, order.Perm pair ∧ empty.registerAll order = .ok reached := by
  have distinct : (family.map Dialect.name).Nodup := by decide
  have distinctPair : (pair.map Dialect.name).Nodup := by decide
  obtain ⟨possible, unique⟩ := registerAll_orders distinct
  obtain ⟨reached, succeeds⟩ : ∃ reached, empty.registerAll family.reverse = .ok reached :=
    ⟨_, rfl⟩
  obtain ⟨other, succeedsOther⟩ :
      ∃ other, empty.registerAll (family.reverse.rotate 1) = .ok other := ⟨_, rfl⟩
  have reversed := List.reverse_perm family
  obtain ⟨holds, names, _, chains⟩ := unique _ _ reached other reversed
    ((List.rotate_perm _ 1).trans reversed) succeeds succeedsOther
  refine ⟨distinct, distinctPair, possible.mp ⟨_, reached, reversed, succeeds⟩,
    ⟨reached, other, succeeds, succeedsOther, names, chains _, ?_⟩, ?_⟩
  · exact (holds _ _).mpr (by decide)
  · rw [(registerAll_orders distinctPair).1]
    intro rooted
    exact not_reachesRoot_pair _ (List.mem_cons_self ..) (rooted _ (List.mem_cons_self ..))

end ImpalaAdapter.Sql.Registry
