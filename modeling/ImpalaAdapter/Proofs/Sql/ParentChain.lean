/-
This file shows that the parent chain of a dialect is the whole line of its ancestors.
-/

import ImpalaAdapter.Proofs.Sql.RegistryRun
import Mathlib.Data.List.Chain
import Mathlib.Data.List.Nodup

namespace ImpalaAdapter.Sql.Registry

/-- A path goes from child to parent through distinct registered names. -/
structure ParentPath (registry : Registry) (chain : List String) : Prop where
  registered : ∀ name ∈ chain, name ∈ registry.dialects
  links : chain.IsChain fun child parent => registry.ParentOf parent child
  distinct : chain.Nodup

/-- A chain is completed by a dialect without a parent or with a parent in the chain. -/
def Completes (registry : Registry) (chain : List String) : Prop :=
  ∃ last dialect, chain.getLast? = some last ∧ registry.dialects[last]? = some dialect ∧
    ∀ parent, dialect.profile.parent = some parent → parent ∈ chain

/-- No path has more names than the registry. -/
theorem ParentPath.length_le {registry : Registry} {chain : List String}
    (path : registry.ParentPath chain) : chain.length ≤ registry.dialects.size := by
  have inside : chain ⊆ registry.dialects.keys := by
    intro name member
    exact Std.ExtTreeMap.mem_keys.mpr (path.registered name member)
  rw [← Std.ExtTreeMap.length_keys]
  exact path.distinct.length_le_of_subset inside

theorem parentPath_singleton {registry : Registry} {name : String}
    (known : name ∈ registry.dialects) : registry.ParentPath ([] ++ [name]) where
  registered := by simpa using known
  links := List.isChain_singleton _
  distinct := by simp

theorem ParentPath.extend {registry : Registry} {chain : List String} {child parent : String}
    (path : registry.ParentPath (chain ++ [child])) (link : registry.ParentOf parent child)
    (known : parent ∈ registry.dialects) (fresh : parent ∉ chain ++ [child]) :
    registry.ParentPath (chain ++ [child] ++ [parent]) where
  registered := by
    intro name member
    rcases List.mem_append.mp member with member | member
    · exact path.registered name member
    · rw [List.mem_singleton.mp member]
      exact known
  links := by
    refine List.isChain_append.mpr ⟨path.links, List.isChain_singleton _, ?_⟩
    simpa using link
  distinct := by
    rw [← List.concat_eq_append]
    exact path.distinct.concat fresh

variable {registry : Registry}

/-- A walk that ends well is a completed path that goes on from where it started. -/
theorem followParents_path
    (ownName : ∀ {name} {dialect : Dialect},
      registry.dialects[name]? = some dialect → dialect.name = name)
    (rounds : Nat) (chain : List String) (dialect : Dialect) {result : List String}
    (stored : registry.dialects[dialect.name]? = some dialect)
    (path : registry.ParentPath (chain ++ [dialect.name]))
    (enough : registry.dialects.size ≤ chain.length + rounds)
    (walked : registry.followParents rounds chain dialect = .ok result) :
    chain ++ [dialect.name] <+: result ∧ registry.ParentPath result ∧
      registry.Completes result := by
  induction rounds generalizing chain dialect with
  | zero =>
      have bounded := path.length_le
      rw [List.length_append, List.length_singleton] at bounded
      omega
  | succ rounds inductionHypothesis =>
      rw [followParents] at walked
      have last : (chain ++ [dialect.name]).getLast? = some dialect.name := by simp
      split at walked
      case h_1 root =>
        cases walked
        refine ⟨List.prefix_refl _, path, dialect.name, dialect, last, stored, ?_⟩
        simp [root]
      case h_2 parent declared =>
        split at walked
        case isTrue repeated =>
          cases walked
          refine ⟨List.prefix_refl _, path, dialect.name, dialect, last, stored, ?_⟩
          simpa [declared] using repeated
        case isFalse fresh =>
          split at walked
          case h_1 next found =>
            have stored' := (registry.find_eq_ok_iff parent next).mp found
            obtain rfl := ownName stored'
            have longer := path.extend ⟨dialect, stored, declared⟩
              (Std.ExtTreeMap.mem_iff_isSome_getElem?.mpr (by simp [stored'])) fresh
            obtain ⟨starts, rest⟩ := inductionHypothesis _ next stored' longer
              (by simp; omega) walked
            exact ⟨(List.prefix_append ..).trans starts, rest⟩
          case h_2 => cases walked

/-- A walk ends well when every declared parent is registered. -/
theorem followParents_succeeds
    (ownName : ∀ {name} {dialect : Dialect},
      registry.dialects[name]? = some dialect → dialect.name = name)
    (parentRegistered : ∀ {parent child}, registry.ParentOf parent child →
      parent ∈ registry.dialects)
    (rounds : Nat) (chain : List String) (dialect : Dialect)
    (stored : registry.dialects[dialect.name]? = some dialect) :
    ∃ result, registry.followParents rounds chain dialect = .ok result := by
  induction rounds generalizing chain dialect with
  | zero => exact ⟨chain, rfl⟩
  | succ rounds inductionHypothesis =>
      rw [followParents]
      cases declared : dialect.profile.parent with
      | none => exact ⟨_, rfl⟩
      | some parent =>
          by_cases repeated : parent ∈ chain ++ [dialect.name]
          · exact ⟨chain ++ [dialect.name], by simp only [if_pos repeated]⟩
          · obtain ⟨next, found⟩ :=
              exists_find (parentRegistered ⟨dialect, stored, declared⟩)
            have named := ownName found
            rw [← named] at found
            obtain ⟨result, walked⟩ := inductionHypothesis (chain ++ [dialect.name]) next found
            rw [named] at found
            refine ⟨result, ?_⟩
            simp only [if_neg repeated, (registry.find_eq_ok_iff parent next).mpr found, walked]

/-- A line of ancestors starts with its own name and ends with a dialect without a parent. -/
structure Ancestry (registry : Registry) (name : String) (chain : List String) : Prop where
  starts : chain.head? = some name
  links : chain.IsChain fun child parent => registry.ParentOf parent child
  ends : ∃ last dialect, chain.getLast? = some last ∧ registry.dialects[last]? = some dialect ∧
    dialect.profile.parent = none
  distinct : chain.Nodup

/-- Ranks fall from each name of a path to every later one. -/
theorem ParentPath.descends {chain : List String} (path : registry.ParentPath chain)
    {rank : String → Nat}
    (grows : ∀ {parent child}, registry.ParentOf parent child → rank parent < rank child) :
    chain.Pairwise fun earlier later => rank later < rank earlier := by
  have transitive : Trans (fun earlier later => rank later < rank earlier)
      (fun earlier later => rank later < rank earlier)
      (fun earlier later => rank later < rank earlier) :=
    ⟨fun first second => Nat.lt_trans second first⟩
  exact (path.links.imp fun _ _ link => grows link).pairwise

/-- In a sound registry no parent of the last name comes before it. -/
theorem Sound.ends_of_completes (sound : registry.Sound) {chain : List String}
    (path : registry.ParentPath chain) (completed : registry.Completes chain) :
    ∃ last dialect, chain.getLast? = some last ∧ registry.dialects[last]? = some dialect ∧
      dialect.profile.parent = none := by
  obtain ⟨last, dialect, isLast, stored, stops⟩ := completed
  refine ⟨last, dialect, isLast, stored, ?_⟩
  cases declared : dialect.profile.parent with
  | none => rfl
  | some parent =>
      obtain ⟨rank, grows⟩ := sound.ranked
      obtain ⟨before, rfl⟩ := List.getLast?_eq_some_iff.mp isLast
      have lower : rank parent < rank last := grows ⟨dialect, stored, declared⟩
      have higher : rank last ≤ rank parent := by
        rcases List.mem_append.mp (stops parent declared) with earlier | same
        · have falls := (List.pairwise_append.mp (path.descends grows)).2.2
          exact Nat.le_of_lt (falls parent earlier last (by simp))
        · rw [List.mem_singleton.mp same]
      omega

theorem Sound.parentChain (sound : registry.Sound) {name : String}
    (known : name ∈ registry.dialects) :
    ∃ chain, registry.parentChain name = .ok chain ∧ registry.Ancestry name chain := by
  obtain ⟨dialect, found⟩ := exists_find known
  obtain rfl := sound.ownName found
  obtain ⟨chain, walked⟩ := followParents_succeeds sound.ownName sound.parentRegistered
    registry.dialects.size [] dialect found
  obtain ⟨starts, path, completed⟩ := followParents_path sound.ownName _ [] dialect found
    (parentPath_singleton known) (by simp) walked
  refine ⟨chain, ?_, ?_, path.links, sound.ends_of_completes path completed, path.distinct⟩
  · rw [Registry.parentChain, (registry.find_eq_ok_iff dialect.name dialect).mpr found]
    exact walked
  · obtain ⟨rest, rfl⟩ := starts
    rfl

theorem parentChain_of_not_mem {name : String} (unknown : name ∉ registry.dialects) :
    registry.parentChain name = .error (.unknownDialect name) := by
  rw [parentChain, find_of_not_mem unknown]

/-- Every registry that a run reaches is sound, and the parent chain of each of its dialects is the
whole line of ancestors. -/
theorem run_parentChain {start : Registry} (starts : start = empty ∨ start = standard)
    (dialects : List Dialect) :
    let reached := start.run dialects
    (∀ name (dialect : Dialect), reached.dialects[name]? = some dialect → dialect.name = name ∧
      ∀ parent, dialect.profile.parent = some parent → parent ∈ reached.dialects) ∧
    (∀ name, ¬ Relation.TransGen reached.ParentOf name name) ∧
    (∀ name ∈ reached.dialects, ∃ chain, reached.parentChain name = .ok chain ∧
      reached.Ancestry name chain) ∧
    ∀ name ∉ reached.dialects, reached.parentChain name = .error (.unknownDialect name) := by
  have sound : (start.run dialects).Sound := by
    rcases starts with rfl | rfl
    · exact sound_empty.run dialects
    · exact sound_standard.run dialects
  refine ⟨?_, sound.acyclic, fun _ => sound.parentChain, fun _ => parentChain_of_not_mem⟩
  intro name dialect stored
  exact ⟨sound.ownName stored, fun _ declared => sound.parentRegistered ⟨dialect, stored, declared⟩⟩

/-- These registrations are tried after the standard ones: a child of Impala, a second Impala, a
dialect that is its own parent, and two dialects that name each other. -/
def attempted : List Dialect := [
  { profile := { name := "warehouse", parent := some "impala" }, flavor := .impala },
  Flavor.impala.dialect,
  { profile := { name := "self", parent := some "self" } },
  { profile := { name := "left", parent := some "right" } },
  { profile := { name := "right", parent := some "left" } }]

theorem run_parentChain_attempted :
    (standard = empty ∨ standard = standard) ∧
      "warehouse" ∈ (standard.run attempted).dialects ∧
      (∃ chain, (standard.run attempted).parentChain "warehouse" = .ok chain ∧
        (standard.run attempted).Ancestry "warehouse" chain) ∧
      "self" ∉ (standard.run attempted).dialects ∧
      (standard.run attempted).parentChain "self" = .error (.unknownDialect "self") := by
  have reached := run_parentChain (.inr rfl : standard = empty ∨ standard = standard) attempted
  have known : "warehouse" ∈ (standard.run attempted).dialects := by
    decide
  have unknown : "self" ∉ (standard.run attempted).dialects := by
    decide
  exact ⟨.inr rfl, known, reached.2.2.1 _ known, unknown, reached.2.2.2 _ unknown⟩

end ImpalaAdapter.Sql.Registry
