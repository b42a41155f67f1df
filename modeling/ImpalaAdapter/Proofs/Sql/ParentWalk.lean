/-
This file follows the walk along declared parents without a bound on its rounds, and shows that it
ends in every table of dialects, also where parents are missing or form cycles.
-/

import ImpalaAdapter.Proofs.Sql.ParentChain

namespace ImpalaAdapter.Sql.Registry

/-- Each dialect stands under its own name. Nothing is said of the parents. -/
def Keyed (registry : Registry) : Prop :=
  ∀ ⦃name⦄ ⦃dialect : Dialect⦄, registry.dialects[name]? = some dialect → dialect.name = name

/-- The walk goes on until a round ends it. Each round adds the name of one dialect to the chain. -/
inductive Walks (registry : Registry) :
    List String → Dialect → Nat → Except RegistryError (List String) → Prop where
  | root {chain : List String} {dialect : Dialect} (parentless : dialect.profile.parent = none) :
      Walks registry chain dialect 1 (.ok (chain ++ [dialect.name]))
  | repeated {chain : List String} {dialect : Dialect} {parent : String}
      (declared : dialect.profile.parent = some parent)
      (passed : parent ∈ chain ++ [dialect.name]) :
      Walks registry chain dialect 1 (.ok (chain ++ [dialect.name]))
  | missing {chain : List String} {dialect : Dialect} {parent : String} {failure : RegistryError}
      (declared : dialect.profile.parent = some parent)
      (fresh : parent ∉ chain ++ [dialect.name]) (absent : registry.find parent = .error failure) :
      Walks registry chain dialect 1 (.error failure)
  | next {chain : List String} {dialect next : Dialect} {parent : String} {rounds : Nat}
      {result : Except RegistryError (List String)}
      (declared : dialect.profile.parent = some parent)
      (fresh : parent ∉ chain ++ [dialect.name]) (found : registry.find parent = .ok next)
      (rest : Walks registry (chain ++ [dialect.name]) next rounds result) :
      Walks registry chain dialect (rounds + 1) result

/-- A name that is not registered fails before the first round. -/
inductive Resolves (registry : Registry) (name : String) :
    Nat → Except RegistryError (List String) → Prop where
  | unknown {failure : RegistryError} (absent : registry.find name = .error failure) :
      Resolves registry name 0 (.error failure)
  | known {dialect : Dialect} {rounds : Nat} {result : Except RegistryError (List String)}
      (found : registry.find name = .ok dialect) (walk : registry.Walks [] dialect rounds result) :
      Resolves registry name rounds result

/-- The second name is the first one, or it is reached from there by following parents. -/
def Reaches (registry : Registry) : String → String → Prop :=
  Relation.ReflTransGen fun child parent => registry.ParentOf parent child

theorem find_eq_error_iff {registry : Registry} {name : String} {failure : RegistryError} :
    registry.find name = .error failure ↔
      name ∉ registry.dialects ∧ failure = .unknownDialect name := by
  rw [find, Std.ExtTreeMap.mem_iff_isSome_getElem?]
  cases registry.dialects[name]? <;> simp [@eq_comm _ failure]

theorem mem_of_stored {registry : Registry} {name : String} {dialect : Dialect}
    (stored : registry.dialects[name]? = some dialect) : name ∈ registry.dialects :=
  Std.ExtTreeMap.mem_iff_isSome_getElem?.mpr (Option.isSome_of_eq_some stored)

/-- What is found under a name has that name. -/
theorem Keyed.of_find {registry : Registry} (keyed : registry.Keyed) {name : String}
    {dialect : Dialect} (found : registry.find name = .ok dialect) :
    dialect.name = name ∧ registry.dialects[dialect.name]? = some dialect := by
  have stored := (registry.find_eq_ok_iff name dialect).mp found
  obtain rfl := keyed stored
  exact ⟨rfl, stored⟩

theorem ParentOf.known {registry : Registry} {parent child : String}
    (link : registry.ParentOf parent child) : child ∈ registry.dialects := by
  obtain ⟨dialect, stored, _⟩ := link
  exact mem_of_stored stored

theorem ParentOf.unique {registry : Registry} {parent other child : String}
    (link : registry.ParentOf parent child) (link' : registry.ParentOf other child) :
    parent = other := by
  obtain ⟨dialect, stored, declared⟩ := link
  obtain ⟨dialect', stored', declared'⟩ := link'
  cases stored.symm.trans stored'
  exact Option.some.inj (declared.symm.trans declared')

variable {registry : Registry}

section Rounds

variable {chain : List String} {dialect : Dialect} {rounds : Nat}
  {result : Except RegistryError (List String)}

/-- A walk that ends is followed to its result whenever its rounds are allowed. -/
theorem Walks.followParents_eq (walk : registry.Walks chain dialect rounds result) (spare : Nat) :
    registry.followParents (rounds + spare) chain dialect = result := by
  induction walk with
  | root parentless =>
      rw [Nat.add_comm, followParents]
      simp only [parentless]
  | repeated declared passed =>
      rw [Nat.add_comm, followParents]
      simp only [declared, if_pos passed]
  | missing declared fresh absent =>
      rw [Nat.add_comm, followParents]
      simp only [declared, if_neg fresh, absent]
  | next declared fresh found _ inductionHypothesis =>
      rw [Nat.add_right_comm, followParents]
      simp only [declared, if_neg fresh, found, inductionHypothesis]

/-- A round that goes on adds a registered name that was not in the chain. -/
theorem ParentPath.next (keyed : registry.Keyed) {next : Dialect} {parent : String}
    (path : registry.ParentPath (chain ++ [dialect.name]))
    (stored : registry.dialects[dialect.name]? = some dialect)
    (declared : dialect.profile.parent = some parent) (fresh : parent ∉ chain ++ [dialect.name])
    (found : registry.find parent = .ok next) :
    registry.dialects[next.name]? = some next ∧
      registry.ParentPath (chain ++ [dialect.name] ++ [next.name]) := by
  obtain ⟨rfl, stored'⟩ := keyed.of_find found
  exact ⟨stored', path.extend ⟨dialect, stored, declared⟩ (mem_of_stored stored') fresh⟩

/-- The rounds of a walk fit into what the chain leaves of the table. -/
theorem Walks.rounds_le (keyed : registry.Keyed)
    (walk : registry.Walks chain dialect rounds result)
    (stored : registry.dialects[dialect.name]? = some dialect)
    (path : registry.ParentPath (chain ++ [dialect.name])) :
    chain.length + rounds ≤ registry.dialects.size := by
  induction walk with
  | root | repeated | missing =>
      have bounded := path.length_le
      rwa [List.length_append, List.length_singleton] at bounded
  | next declared fresh found _ inductionHypothesis =>
      obtain ⟨stored', longer⟩ := path.next keyed stored declared fresh found
      have bounded := inductionHypothesis stored' longer
      rw [List.length_append, List.length_singleton] at bounded
      omega

/-- Every walk ends, because each round that goes on takes a new name from the table, and no path
has more names than the table. -/
theorem exists_walks (keyed : registry.Keyed) (left : Nat) (chain : List String) (dialect : Dialect)
    (stored : registry.dialects[dialect.name]? = some dialect)
    (path : registry.ParentPath (chain ++ [dialect.name]))
    (enough : registry.dialects.size ≤ chain.length + left) :
    ∃ rounds result, registry.Walks chain dialect rounds result := by
  induction left generalizing chain dialect with
  | zero =>
      have bounded := path.length_le
      rw [List.length_append, List.length_singleton] at bounded
      omega
  | succ left inductionHypothesis =>
      cases declared : dialect.profile.parent with
      | none => exact ⟨_, _, .root declared⟩
      | some parent =>
          by_cases passed : parent ∈ chain ++ [dialect.name]
          · exact ⟨_, _, .repeated declared passed⟩
          · cases found : registry.find parent with
            | error failure => exact ⟨_, _, .missing declared passed found⟩
            | ok next =>
                obtain ⟨stored', longer⟩ := path.next keyed stored declared passed found
                obtain ⟨rounds, result, rest⟩ := inductionHypothesis _ next stored' longer
                  (by rw [List.length_append, List.length_singleton]; omega)
                exact ⟨_, _, .next declared passed found rest⟩

/-- A walk fails at a name that is reached and not registered. -/
theorem Walks.exists_missing (keyed : registry.Keyed) {failure : RegistryError}
    (walk : registry.Walks chain dialect rounds (.error failure))
    (stored : registry.dialects[dialect.name]? = some dialect) :
    ∃ missing, registry.Reaches dialect.name missing ∧ missing ∉ registry.dialects ∧
      failure = .unknownDialect missing := by
  generalize ended : (Except.error failure : Except RegistryError (List String)) = result at walk
  induction walk with
  | root | repeated => cases ended
  | missing declared _ absent =>
      cases ended
      obtain ⟨unknown, equal⟩ := find_eq_error_iff.mp absent
      exact ⟨_, .single ⟨_, stored, declared⟩, unknown, equal⟩
  | next declared _ found _ inductionHypothesis =>
      obtain ⟨rfl, stored'⟩ := keyed.of_find found
      obtain ⟨missing, reaches, rest⟩ := inductionHypothesis stored' ended
      exact ⟨missing, .head ⟨_, stored, declared⟩ reaches, rest⟩

end Rounds

section Chain

variable {chain : List String} {name : String}

/-- A completed path leaves out no parent: the walk stopped at its last name, and the parent of any
other name comes right behind it. -/
theorem ParentPath.parent_mem (path : registry.ParentPath chain)
    (completed : registry.Completes chain) {parent child : String} (member : child ∈ chain)
    (link : registry.ParentOf parent child) : parent ∈ chain := by
  obtain ⟨before, after, rfl⟩ := List.append_of_mem member
  cases after with
  | nil =>
      obtain ⟨last, dialect, isLast, stored, stops⟩ := completed
      have same : last = child := by simpa using isLast.symm
      subst same
      obtain ⟨dialect', stored', declared⟩ := link
      cases stored.symm.trans stored'
      exact stops parent declared
  | cons next after =>
      have links := (List.isChain_append.mp path.links).2.1
      obtain rfl := link.unique (List.isChain_cons_cons.mp links).1
      simp

/-- A completed path holds exactly the names that its first name reaches. -/
theorem ParentPath.mem_iff (path : registry.ParentPath chain)
    (completed : registry.Completes chain) (starts : chain.head? = some name) (ancestor : String) :
    ancestor ∈ chain ↔ registry.Reaches name ancestor := by
  obtain ⟨rest, rfl⟩ := List.head?_eq_some_iff.mp starts
  constructor
  · intro member
    have transitive : Trans registry.Reaches registry.Reaches registry.Reaches :=
      ⟨Relation.ReflTransGen.trans⟩
    have reached : (name :: rest).Pairwise registry.Reaches :=
      (path.links.imp fun _ _ link => .single link).pairwise
    rcases List.mem_cons.mp member with rfl | member
    · exact .refl
    · exact (List.pairwise_cons.mp reached).1 ancestor member
  · intro reaches
    induction reaches with
    | refl => simp
    | tail _ link inductionHypothesis => exact path.parent_mem completed inductionHypothesis link

/-- Only one name that is not registered can be reached. -/
theorem Reaches.missing_unique {missing other : String} (reaches : registry.Reaches name missing)
    (reaches' : registry.Reaches name other) (unknown : missing ∉ registry.dialects)
    (unknown' : other ∉ registry.dialects) : missing = other := by
  have stuck {start finish : String} (absent : start ∉ registry.dialects)
      (path : registry.Reaches start finish) : start = finish := by
    rcases path.cases_head with same | ⟨parent, link, _⟩
    · exact same
    · exact absurd link.known absent
  have functional : Relator.RightUnique fun child parent => registry.ParentOf parent child :=
    fun _ _ _ link link' => link.unique link'
  rcases reaches.total_of_right_unique functional reaches' with path | path
  · exact stuck unknown path
  · exact (stuck unknown' path).symm

end Chain

/-- The walk from a name has one result, which takes no more rounds than there are dialects. -/
theorem Resolves.eq_parentChain (keyed : registry.Keyed) {name : String} {rounds : Nat}
    {result : Except RegistryError (List String)} (resolves : registry.Resolves name rounds result) :
    rounds ≤ registry.dialects.size ∧ result = registry.parentChain name := by
  cases resolves with
  | unknown absent =>
      rw [parentChain, absent]
      exact ⟨Nat.zero_le _, rfl⟩
  | known found walk =>
      obtain ⟨rfl, stored⟩ := keyed.of_find found
      have bounded := walk.rounds_le keyed stored (parentPath_singleton (mem_of_stored stored))
      rw [List.length_nil, Nat.zero_add] at bounded
      have followed := walk.followParents_eq (registry.dialects.size - rounds)
      rw [Nat.add_sub_cancel' bounded] at followed
      rw [parentChain, found]
      exact ⟨bounded, followed.symm⟩

theorem exists_resolves (keyed : registry.Keyed) (name : String) :
    ∃ rounds result, registry.Resolves name rounds result := by
  cases found : registry.find name with
  | error failure => exact ⟨_, _, .unknown found⟩
  | ok dialect =>
      obtain ⟨rfl, stored⟩ := keyed.of_find found
      obtain ⟨rounds, result, walk⟩ := exists_walks keyed registry.dialects.size [] dialect stored
        (parentPath_singleton (mem_of_stored stored)) (Nat.le_add_left _ _)
      exact ⟨rounds, result, .known found walk⟩

theorem parentChain_path (keyed : registry.Keyed) {name : String} {chain : List String}
    (resolved : registry.parentChain name = .ok chain) :
    chain.head? = some name ∧ registry.ParentPath chain ∧ registry.Completes chain := by
  cases found : registry.find name with
  | error failure =>
      rw [parentChain, found] at resolved
      cases resolved
  | ok dialect =>
      obtain ⟨rfl, stored⟩ := keyed.of_find found
      rw [parentChain, found] at resolved
      obtain ⟨starts, path, completed⟩ := followParents_path (fun stored => keyed stored) _ [] dialect
        stored (parentPath_singleton (mem_of_stored stored)) (by simp) resolved
      obtain ⟨rest, rfl⟩ := starts
      exact ⟨rfl, path, completed⟩

theorem exists_missing_of_parentChain (keyed : registry.Keyed) {name : String}
    {failure : RegistryError} (failed : registry.parentChain name = .error failure) :
    ∃ missing, registry.Reaches name missing ∧ missing ∉ registry.dialects ∧
      failure = .unknownDialect missing := by
  obtain ⟨rounds, result, resolves⟩ := exists_resolves keyed name
  obtain ⟨_, rfl⟩ := resolves.eq_parentChain keyed
  rw [failed] at resolves
  cases resolves with
  | unknown absent => exact ⟨name, .refl, find_eq_error_iff.mp absent⟩
  | known found walk =>
      obtain ⟨rfl, stored⟩ := keyed.of_find found
      exact walk.exists_missing keyed stored

/-- The walk fails exactly when a name that is not registered is reached, and it names that one. -/
theorem parentChain_eq_error_iff (keyed : registry.Keyed) (name : String)
    (failure : RegistryError) :
    registry.parentChain name = .error failure ↔
      ∃ missing, registry.Reaches name missing ∧ missing ∉ registry.dialects ∧
        failure = .unknownDialect missing := by
  refine ⟨exists_missing_of_parentChain keyed, ?_⟩
  rintro ⟨missing, reaches, unknown, rfl⟩
  cases outcome : registry.parentChain name with
  | ok chain =>
      obtain ⟨starts, path, completed⟩ := parentChain_path keyed outcome
      have member := (path.mem_iff completed starts missing).mpr reaches
      exact absurd (path.registered missing member) unknown
  | error failure =>
      obtain ⟨other, reaches', unknown', rfl⟩ := exists_missing_of_parentChain keyed outcome
      rw [reaches.missing_unique reaches' unknown unknown']

/-- In every table that keeps its dialects under their own names, the walk along parents ends after
at most as many rounds as there are dialects. It succeeds with a path of distinct registered names,
which are all the names that are reached and stop at a dialect without a parent or with one in the
path, and it fails exactly at a name that is reached and not registered. -/
theorem parentChain_ends (keyed : registry.Keyed) (name : String) :
    (∃ rounds ≤ registry.dialects.size,
        registry.Resolves name rounds (registry.parentChain name)) ∧
      (∀ rounds result, registry.Resolves name rounds result →
        rounds ≤ registry.dialects.size ∧ result = registry.parentChain name) ∧
      (∀ chain, registry.parentChain name = .ok chain →
        chain.head? = some name ∧ registry.ParentPath chain ∧ registry.Completes chain ∧
          ∀ ancestor, ancestor ∈ chain ↔ registry.Reaches name ancestor) ∧
      ∀ failure, registry.parentChain name = .error failure ↔
        ∃ missing, registry.Reaches name missing ∧ missing ∉ registry.dialects ∧
          failure = .unknownDialect missing := by
  refine ⟨?_, ?_, ?_, parentChain_eq_error_iff keyed name⟩
  · obtain ⟨rounds, result, resolves⟩ := exists_resolves keyed name
    obtain ⟨bounded, rfl⟩ := resolves.eq_parentChain keyed
    exact ⟨rounds, bounded, resolves⟩
  · intro rounds result resolves
    exact resolves.eq_parentChain keyed
  · intro chain resolved
    obtain ⟨starts, path, completed⟩ := parentChain_path keyed resolved
    exact ⟨starts, path, completed, path.mem_iff completed starts⟩

theorem keyed_empty : empty.Keyed := by
  intro name dialect stored
  simp [empty] at stored

theorem Keyed.insert (keyed : registry.Keyed) (dialect : Dialect) :
    (registry.insert dialect).Keyed := by
  intro name found stored
  rw [getElem?_insert] at stored
  split at stored
  case isTrue same =>
    cases stored
    exact same
  case isFalse => exact keyed stored

/-- Insertions make a table without a look at the parents. -/
theorem Keyed.insertAll (keyed : registry.Keyed) (dialects : List Dialect) :
    (dialects.foldl Registry.insert registry).Keyed := by
  induction dialects generalizing registry with
  | nil => exact keyed
  | cons dialect rest inductionHypothesis => exact inductionHypothesis (keyed.insert dialect)

/-- The parents of `branch` lead into a cycle of two others, `self` is its own parent, and the
parent of `orphan` is missing. -/
def tangled : Registry :=
  [{ profile := { name := "branch", parent := some "left" } },
    { profile := { name := "left", parent := some "right" } },
    { profile := { name := "right", parent := some "left" } },
    { profile := { name := "self", parent := some "self" } },
    { profile := { name := "orphan", parent := some "nowhere" } }].foldl insert empty

theorem parentChain_ends_tangled :
    tangled.Keyed ∧
      tangled.parentChain "branch" = .ok ["branch", "left", "right"] ∧
      tangled.Completes ["branch", "left", "right"] ∧
      (∀ ancestor, ancestor ∈ ["branch", "left", "right"] ↔ tangled.Reaches "branch" ancestor) ∧
      tangled.parentChain "orphan" = .error (.unknownDialect "nowhere") ∧
      ∃ missing, tangled.Reaches "orphan" missing ∧ missing ∉ tangled.dialects ∧
        RegistryError.unknownDialect "nowhere" = .unknownDialect missing := by
  have keyed : tangled.Keyed := keyed_empty.insertAll _
  have cyclic : tangled.parentChain "branch" = .ok ["branch", "left", "right"] := by
    rfl
  have broken : tangled.parentChain "orphan" = .error (.unknownDialect "nowhere") := by
    rfl
  obtain ⟨_, _, completed, reached⟩ := (parentChain_ends keyed "branch").2.2.1 _ cyclic
  exact ⟨keyed, cyclic, completed, reached, broken,
    ((parentChain_ends keyed "orphan").2.2.2 _).mp broken⟩

end ImpalaAdapter.Sql.Registry
