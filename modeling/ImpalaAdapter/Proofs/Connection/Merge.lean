/-
This file gives the value that a merged table holds for each key, and the spelling of its keys.
-/

import ImpalaAdapter.Connection.Descriptor
import Mathlib.Data.List.Basic

namespace ImpalaAdapter.Connection

/-- The last of the pairs with this key decides. -/
def lastValue? (properties : List (String × String)) (key : String) : Option String :=
  properties.reverse.lookup key

theorem lastValue?_append (earlier later : List (String × String)) (key : String) :
    lastValue? (earlier ++ later) key = (lastValue? later key).or (lastValue? earlier key) := by
  simp only [lastValue?, List.reverse_append, List.lookup_append]

theorem lastValue?_cons (property : String × String) (later : List (String × String))
    (key : String) :
    lastValue? (property :: later) key =
      (lastValue? later key).or (if property.1 = key then some property.2 else none) := by
  obtain ⟨name, value⟩ := property
  simp only [lastValue?, List.reverse_cons, List.lookup_append, List.lookup_singleton, beq_iff_eq,
    @eq_comm String key]

@[simp]
theorem lastValue?_eq_none_iff {properties : List (String × String)} {key : String} :
    lastValue? properties key = none ↔ key ∉ properties.map Prod.fst := by
  simp only [lastValue?, List.lookup_eq_none_iff, List.mem_reverse, List.mem_map, bne_iff_ne]
  grind

/-- The pair that decides has this key, and no later pair has it. -/
theorem lastValue?_eq_some_iff {properties : List (String × String)} {key value : String} :
    lastValue? properties key = some value ↔
      ∃ earlier later, properties = earlier ++ (key, value) :: later ∧
        key ∉ later.map Prod.fst := by
  constructor
  · intro found
    obtain ⟨after, before, split, others⟩ := List.lookup_eq_some_iff.mp found
    refine ⟨before.reverse, after.reverse, ?_, ?_⟩
    · rw [← properties.reverse_reverse, split]
      simp
    · intro again
      obtain ⟨property, isLater, rfl⟩ := List.mem_map.mp again
      simpa using others property (List.mem_reverse.mp isLater)
  · rintro ⟨earlier, later, rfl, others⟩
    rw [lastValue?_append, lastValue?_cons, lastValue?_eq_none_iff.mpr others]
    simp

theorem mem_of_lastValue? {properties : List (String × String)} {key value : String}
    (found : lastValue? properties key = some value) : (key, value) ∈ properties := by
  obtain ⟨earlier, later, rfl, _⟩ := lastValue?_eq_some_iff.mp found
  simp

namespace Descriptor

/-- A merged table holds the last value of each of its keys. -/
theorem getElem?_mergeProperties (properties : List (String × String)) (key : String) :
    (mergeProperties properties)[key]? = lastValue? properties key := by
  have onto (table : NameTable String) :
      (properties.foldl (fun merged property => merged.insert property.1 property.2) table)[key]? =
        (lastValue? properties key).or table[key]? := by
    induction properties generalizing table with
    | nil => rfl
    | cons property rest inductionHypothesis =>
        rw [List.foldl_cons, inductionHypothesis, Std.ExtTreeMap.getElem?_insert, lastValue?_cons,
          Option.or_assoc]
        congr 1
        by_cases same : property.1 = key <;> simp [same]
  rw [mergeProperties, onto]
  simp

end Descriptor

/-- No two known keys differ in case alone. -/
theorem knownKeys_distinct : ∀ first ∈ knownKeys, ∀ second ∈ knownKeys,
    Text.equalsIgnoringCase first second = true → first = second := by
  decide +kernel

/-- A key that is no spelling of a known key stays as it is. -/
theorem canonicalKey_cases (key : String) :
    canonicalKey key = key ∨ canonicalKey key ∈ knownKeys := by
  cases found : knownKeys.find? fun known => Text.equalsIgnoringCase known key with
  | none =>
      left
      rw [canonicalKey, found, Option.getD_none]
  | some known =>
      right
      rw [canonicalKey, found, Option.getD_some]
      exact List.mem_of_find?_eq_some found

/-- Every spelling of a known key becomes the known key. -/
theorem canonicalKey_eq {known key : String} (isKnown : known ∈ knownKeys)
    (spelled : Text.equalsIgnoringCase known key = true) : canonicalKey key = known := by
  cases found : knownKeys.find? fun known => Text.equalsIgnoringCase known key with
  | none => exact absurd spelled (List.find?_eq_none.mp found known isKnown)
  | some other =>
      rw [canonicalKey, found, Option.getD_some]
      refine knownKeys_distinct other (List.mem_of_find?_eq_some found) known isKnown ?_
      have otherSpelled := List.find?_some found
      simp only [Text.equalsIgnoringCase, beq_iff_eq] at spelled otherSpelled ⊢
      rw [otherSpelled, spelled]

end ImpalaAdapter.Connection
