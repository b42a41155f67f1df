/-
This file shows that the expansion of a text replaces its references once, from left to right.
-/

import ImpalaAdapter.Proofs.Settings.Segmentation

namespace ImpalaAdapter.Settings

namespace Segment

/-- A reference stands for the value of its variable, and every other segment stands for itself. -/
def replacement (environment : Environment) (segment : Segment) : List Char :=
  match segment.name? with
  | some name => ((environment.read? name).getD "").toList
  | none => segment.written

theorem expansion_of_name?_eq_none {segment : Segment} (environment : Environment)
    (plain : segment.name? = none) :
    segment.expansion environment = .ok (segment.replacement environment) := by
  cases segment with
  | plain text => rfl
  | dollar => rfl
  | braced | unclosed | bare => cases plain

theorem expansion_of_name?_eq_some {segment : Segment} {name : String} (environment : Environment)
    (refers : segment.name? = some name) :
    segment.expansion environment =
      if (environment.read? name).isNone then .error (.missingVariable name)
      else .ok (segment.replacement environment) := by
  cases segment with
  | plain text => cases refers
  | dollar => cases refers
  | braced | unclosed | bare =>
      cases refers
      simp only [expansion, replacement, name?]
      split
      case h_1 value found => simp [found]
      case h_2 missing => simp [missing]

end Segment

/-- The leftmost name of a reference whose variable cannot be read. -/
def firstUnset? (environment : Environment) (parts : List Segment) : Option String :=
  (parts.filterMap Segment.name?).find? fun name => (environment.read? name).isNone

/-- The segments are expanded in order, up to the first one that has no value. -/
theorem mapM_expansion (environment : Environment) (parts : List Segment) :
    parts.mapM (Segment.expansion environment) =
      match firstUnset? environment parts with
      | some name => .error (.missingVariable name)
      | none => .ok (parts.map (Segment.replacement environment)) := by
  induction parts with
  | nil => rfl
  | cons segment others inductionHypothesis =>
      rw [List.mapM_cons, inductionHypothesis]
      cases refers : segment.name? with
      | none =>
          have skipped : firstUnset? environment (segment :: others) =
              firstUnset? environment others := by
            simp [firstUnset?, refers]
          rw [skipped, Segment.expansion_of_name?_eq_none environment refers]
          cases firstUnset? environment others <;> rfl
      | some name =>
          rw [Segment.expansion_of_name?_eq_some environment refers]
          by_cases missing : (environment.read? name).isNone
          · have found : firstUnset? environment (segment :: others) = some name := by
              simp [firstUnset?, refers, missing]
            rw [found, if_pos missing]
            rfl
          · have passed : firstUnset? environment (segment :: others) =
                firstUnset? environment others := by
              simp [firstUnset?, refers, missing]
            rw [passed, if_neg missing]
            cases firstUnset? environment others <;> rfl

theorem expand_eq (environment : Environment) (text : String) :
    expand environment text =
      match firstUnset? environment (segments text.toList) with
      | some name => .error (.missingVariable name)
      | none =>
          .ok (String.ofList
            ((segments text.toList).flatMap (Segment.replacement environment))) := by
  rw [expand, mapM_expansion]
  cases firstUnset? environment (segments text.toList) with
  | none => rw [List.flatMap_def]; rfl
  | some name => rfl

/-- A text without dollar signs is one plain segment, or none when it is empty. -/
theorem segments_of_not_mem {text : List Char} (noDollar : '$' ∉ text) :
    segments text = if text = [] then [] else [.plain text] := by
  apply Eq.symm
  apply divides_iff.mp
  split
  case isTrue empty =>
    rw [empty]
    exact .nil
  case isFalse nonempty =>
    have fits : (Segment.plain text).FitsBefore [] := ⟨nonempty, noDollar, by simp⟩
    simpa [Segment.written] using Divides.cons fits .nil

/-- A text without dollar signs is kept in every environment. -/
theorem expand_of_not_mem {text : String} (noDollar : '$' ∉ text.toList)
    (environment : Environment) : expand environment text = .ok text := by
  rw [expand_eq, segments_of_not_mem noDollar]
  by_cases empty : text.toList = []
  · simp [firstUnset?, String.toList_eq_nil_iff.mp empty]
  · simp [empty, firstUnset?, Segment.name?, Segment.replacement, Segment.written]

/-- Each text is divided in one way, and its expansion puts a value for each reference without
reading the value again. -/
theorem expand_division (text : String) :
    (∃! parts, Divides parts text.toList) ∧
      (∀ parts, Divides parts text.toList → ∀ environment,
        expand environment text =
          match firstUnset? environment parts with
          | some name => .error (.missingVariable name)
          | none => .ok (String.ofList (parts.flatMap (Segment.replacement environment)))) ∧
      ('$' ∉ text.toList → ∀ environment, expand environment text = .ok text) := by
  refine ⟨⟨segments text.toList, divides_iff.mpr rfl, ?_⟩, ?_, ?_⟩
  · intro parts divides
    exact divides_iff.mp divides
  · intro parts divides environment
    rw [divides_iff.mp divides]
    exact expand_eq environment text
  · exact expand_of_not_mem

def mixedText : String := "5$$é_1$\x7ba\x7d$\x7b$\x7d$ $b\x7b$\x7bc $d"

/-- The value of the first variable looks like a reference. -/
def mixedEnvironment : Environment :=
  .ofList [("é_1", .text "$b"), ("a", .text "x\x7d"), ("$", .text ""), ("b", .text "é"),
    ("c $d", .text "end")]

def mixedParts : List Segment :=
  [.plain ['5'], .dollar, .bare "é_1".toList, .braced ['a'], .braced ['$'], .dollar, .plain [' '],
    .bare ['b'], .plain ['{'], .unclosed "c $d".toList]

theorem expand_mixedText :
    (Divides mixedParts mixedText.toList ∧ '$' ∉ "5 {a}".toList) ∧
      expand mixedEnvironment mixedText = .ok "5$$bx\x7d$ é\x7bend" ∧
      expand ⟨fun _ => none⟩ mixedText = .error (.missingVariable "é_1") ∧
      expand ⟨fun _ => none⟩ "5 {a}" = .ok "5 {a}" := by
  have divides : Divides mixedParts mixedText.toList := divides_iff.mpr (by decide +kernel)
  refine ⟨⟨divides, by decide⟩, ?_, ?_, ?_⟩
  · rw [(expand_division mixedText).2.1 mixedParts divides mixedEnvironment]
    rfl
  · rw [(expand_division mixedText).2.1 mixedParts divides ⟨fun _ => none⟩]
    rfl
  · exact (expand_division "5 {a}").2.2 (by decide) ⟨fun _ => none⟩

end ImpalaAdapter.Settings
