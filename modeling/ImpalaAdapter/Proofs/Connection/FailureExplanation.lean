/-
This file says which rule explains the message of a failure, and what more text around the message
changes.
-/

import ImpalaAdapter.Connection.Failure
import ImpalaAdapter.Proofs.Text.Cut

namespace ImpalaAdapter.Connection

/-- A rule matches a message that has one of its phrases in it. -/
def FailureRule.Matches (rule : FailureRule) (message : String) : Prop :=
  ∃ phrase ∈ rule.phrases, phrase.toList <:+: message.toList

/-- A rule that matches explains the message when no rule before it matches. -/
structure Explains (index : Fin failureRules.length) (message : String) : Prop where
  holds : failureRules[index].Matches message
  first : ∀ earlier < index, ¬ failureRules[earlier].Matches message

/-- A category with a lower rank is looked for earlier. -/
def FailureCategory.rank (category : FailureCategory) : Nat :=
  failureRules.findIdx fun rule => rule.category = category

section
variable {rule : FailureRule} {message : String} {index other : Fin failureRules.length}
  {category : FailureCategory}

theorem FailureRule.applies_iff : rule.applies message ↔ rule.Matches message := by
  simp only [applies, Matches, List.any_eq_true, Text.occursIn_iff]

/-- A phrase stays in a message when more text comes around it. -/
theorem FailureRule.Matches.append (matched : rule.Matches message) (before after : String) :
    rule.Matches (before ++ message ++ after) := by
  obtain ⟨phrase, member, inside⟩ := matched
  refine ⟨phrase, member, ?_⟩
  rw [String.toList_append, String.toList_append]
  exact inside.trans (List.infix_append _ _ _)

theorem classifyFailure_eq_some_iff :
    classifyFailure message = some category ↔
      ∃ index, Explains index message ∧ failureRules[index].category = category := by
  rw [classifyFailure, Option.map_eq_some_iff]
  simp only [List.find?_eq_some_iff_getElem, Bool.not_eq_true', ← Bool.not_eq_true,
    FailureRule.applies_iff]
  constructor
  · rintro ⟨_, ⟨holds, place, inside, rfl, first⟩, same⟩
    refine ⟨⟨place, inside⟩, ⟨holds, ?_⟩, same⟩
    intro earlier before
    exact first earlier before
  · rintro ⟨index, ⟨holds, first⟩, same⟩
    refine ⟨failureRules[index], ⟨holds, index, index.isLt, rfl, ?_⟩, same⟩
    intro place before
    exact first ⟨place, Nat.lt_trans before index.isLt⟩ before

theorem classifyFailure_eq_none_iff :
    classifyFailure message = none ↔ ∀ rule ∈ failureRules, ¬ rule.Matches message := by
  simp only [classifyFailure, Option.map_eq_none_iff, List.find?_eq_none, FailureRule.applies_iff]

/-- More text around a message can complete a phrase of an earlier rule. It takes no phrase away. -/
theorem Explains.append (explains : Explains index message) (before after : String) :
    ∃ earlier ≤ index, Explains earlier (before ++ message ++ after) := by
  have matched := explains.holds.append before after
  cases classified : classifyFailure (before ++ message ++ after) with
  | none =>
      have unmatched := classifyFailure_eq_none_iff.mp classified
      exact absurd matched (unmatched _ (List.getElem_mem index.isLt))
  | some category =>
      obtain ⟨earlier, explainsAll, _⟩ := classifyFailure_eq_some_iff.mp classified
      refine ⟨earlier, Fin.not_lt.mp ?_, explainsAll⟩
      intro later
      exact explainsAll.first index later matched

/-- No two rules have one category, so the rank of a category is the place of its rule. -/
theorem rank_category (index : Fin failureRules.length) :
    failureRules[index].category.rank = index := by
  revert index
  decide

/-- No explanation has a phrase in it that a rule looks for. -/
theorem classifyFailure_explanation (category : FailureCategory) :
    classifyFailure category.explanation = none := by
  cases category <;> decide

theorem explainFailure_of_some (classified : classifyFailure message = some category) :
    explainFailure message = category.explanation := by
  rw [explainFailure, classified]

theorem explainFailure_of_none (classified : classifyFailure message = none) :
    explainFailure message = message := by
  rw [explainFailure, classified]

/-- What explains a failure needs no explanation. -/
theorem classifyFailure_explainFailure (message : String) :
    classifyFailure (explainFailure message) = none := by
  cases classified : classifyFailure message with
  | some category =>
      rw [explainFailure_of_some classified]
      exact classifyFailure_explanation category
  | none => rwa [explainFailure_of_none classified]

end

/-- The first rule that matches gives the category. More text around the message gives the same
category or one that is looked for earlier. An explanation is kept as it is, and so are the messages
that no rule matches and no others. -/
theorem failure_explained :
    (∀ (message : String) (category : FailureCategory),
      classifyFailure message = some category ↔
        ∃ index, Explains index message ∧ failureRules[index].category = category) ∧
    (∀ message : String,
      classifyFailure message = none ↔ ∀ rule ∈ failureRules, ¬ rule.Matches message) ∧
    (∀ (before message after : String) (category : FailureCategory),
      classifyFailure message = some category →
        ∃ earlier, classifyFailure (before ++ message ++ after) = some earlier ∧
          earlier.rank ≤ category.rank) ∧
    (∀ message : String, explainFailure (explainFailure message) = explainFailure message) ∧
    ∀ message : String, explainFailure message = message ↔ classifyFailure message = none := by
  refine ⟨?_, ?_, ?_, ?_, ?_⟩
  · intro message category
    exact classifyFailure_eq_some_iff
  · intro message
    exact classifyFailure_eq_none_iff
  · intro before message after category classified
    obtain ⟨index, explains, rfl⟩ := classifyFailure_eq_some_iff.mp classified
    obtain ⟨earlier, notLater, explainsAll⟩ := explains.append before after
    refine ⟨_, classifyFailure_eq_some_iff.mpr ⟨earlier, explainsAll, rfl⟩, ?_⟩
    rw [rank_category, rank_category]
    exact notLater
  · intro message
    exact explainFailure_of_none (classifyFailure_explainFailure message)
  · intro message
    constructor
    · intro kept
      rw [← kept]
      exact classifyFailure_explainFailure message
    · exact explainFailure_of_none

/-- The text before the message completes a phrase of an earlier rule. -/
theorem failure_explained_completed :
    classifyFailure "base; Must specify port after \x27:\x27" = some .invalidHostname ∧
      ∃ earlier, classifyFailure
          ("Unknown data" ++ "base; Must specify port after \x27:\x27" ++ "") = some earlier ∧
        earlier.rank ≤ FailureCategory.invalidHostname.rank := by
  have classified :
      classifyFailure "base; Must specify port after \x27:\x27" = some .invalidHostname := by
    decide
  exact ⟨classified, failure_explained.2.2.1 "Unknown data" _ "" _ classified⟩

end ImpalaAdapter.Connection
