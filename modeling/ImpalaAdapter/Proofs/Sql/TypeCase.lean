/-
This file shows that the case of its letters does not change the base name of a native type.
-/

import ImpalaAdapter.Proofs.Text.LetterCase
import ImpalaAdapter.Sql.NativeType

namespace ImpalaAdapter.Sql.NativeType

open Text

theorem foldModifierLetter_toLower (character : Char) :
    foldModifierLetter character.toLower = foldModifierLetter character :=
  eq_of_toLower foldModifierLetter (by decide) character

theorem opensParameters_toLower (character : Char) :
    opensParameters character.toLower = opensParameters character :=
  eq_of_toLower opensParameters (by decide) character

theorem toLower_eq_lineFeed_iff (character : Char) :
    character.toLower = '\n' ↔ character = '\n' := by
  rw [← beq_iff_eq, eq_of_toLower (· == '\n') (by decide), beq_iff_eq]

section
variable (text : List Char)

theorem isModifier_map_toLower : isModifier (text.map Char.toLower) = isModifier text := by
  have folded : foldModifierLetter ∘ Char.toLower = foldModifierLetter :=
    funext foldModifierLetter_toLower
  cases text with
  | nil => rfl
  | cons first rest =>
      rw [List.map_cons, isModifier, isModifier, isBlank_toLower, trimStart_map_toLower,
        List.map_map, folded]

theorem dropModifier_map_toLower :
    dropModifier (text.map Char.toLower) = (dropModifier text).map Char.toLower := by
  induction text with
  | nil => rfl
  | cons character rest inductionHypothesis =>
      have same := isModifier_map_toLower (character :: rest)
      rw [List.map_cons] at same
      rw [List.map_cons, dropModifier, dropModifier, same, inductionHypothesis]
      split <;> rfl

theorem contains_lineFeed_map_toLower :
    (text.map Char.toLower).contains '\n' = text.contains '\n' := by
  rw [Bool.eq_iff_iff, List.contains_iff_mem, List.contains_iff_mem, List.mem_map]
  constructor
  · rintro ⟨character, member, lowered⟩
    rwa [(toLower_eq_lineFeed_iff character).mp lowered] at member
  · intro member
    exact ⟨'\n', member, rfl⟩

theorem dropParameters_map_toLower :
    dropParameters (text.map Char.toLower) = (dropParameters text).map Char.toLower := by
  induction text with
  | nil => rfl
  | cons character rest inductionHypothesis =>
      rw [List.map_cons, dropParameters, dropParameters, opensParameters_toLower,
        contains_lineFeed_map_toLower, inductionHypothesis]
      split <;> rfl

end

/-- Two types that differ in the case of ASCII letters have one base name. -/
theorem baseName_eq_of_equalsIgnoringCase {first second : String}
    (same : equalsIgnoringCase first second = true) : baseName first = baseName second := by
  have lowered (native : String) : baseName native = String.ofList
      (uppercase (trim (dropParameters (dropModifier (trim
        (native.toList.map Char.toLower)))))) := by
    rw [trim_map_toLower, dropModifier_map_toLower, dropParameters_map_toLower, trim_map_toLower,
      uppercase_map_toLower, baseName]
  rw [equalsIgnoringCase, beq_iff_eq] at same
  rw [lowered first, lowered second, same]

end ImpalaAdapter.Sql.NativeType
