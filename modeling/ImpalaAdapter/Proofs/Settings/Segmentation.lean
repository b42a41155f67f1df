/-
This file describes the grammar of texts that refer to variables, and shows that each text is
divided into its segments in exactly one way.
-/

import ImpalaAdapter.Proofs.Text.Cut
import ImpalaAdapter.Proofs.Text.Run
import ImpalaAdapter.Settings.Reference
import Mathlib.Data.List.TakeWhile

namespace ImpalaAdapter.Settings

namespace Segment

def written : Segment → List Char
  | .plain text => text
  | .braced name => '$' :: '{' :: name ++ ['}']
  | .unclosed name => '$' :: '{' :: name
  | .bare name => '$' :: name
  | .dollar => ['$']

/-- Plain texts and bare names go on as long as they can, and only the last segment lacks its
closing brace. -/
def FitsBefore (rest : List Char) : Segment → Prop
  | .plain text => text ≠ [] ∧ '$' ∉ text ∧ Text.StopsRun (· ≠ '$') rest
  | .braced name => '}' ∉ name
  | .unclosed name => '}' ∉ name ∧ rest = []
  | .bare name =>
      name ≠ [] ∧ (∀ character ∈ name, isNameCharacter character) ∧
        Text.StopsRun isNameCharacter rest
  | .dollar => rest.head? ≠ some '{' ∧ Text.StopsRun isNameCharacter rest

end Segment

/-- A division writes the text segment after segment, and each one fits to the text after it. -/
inductive Divides : List Segment → List Char → Prop
  | nil : Divides [] []
  | cons {segment : Segment} {others : List Segment} {rest : List Char}
      (fits : segment.FitsBefore rest) (divides : Divides others rest) :
      Divides (segment :: others) (segment.written ++ rest)

variable {segment : Segment} {first : Char} {text rest : List Char}

theorem isNameCharacter_brace : isNameCharacter '{' = false := by decide

theorem segmentAfterDollar_other (text : List Char) (other : text.head? ≠ some '{') :
    segmentAfterDollar text =
      if (text.takeWhile isNameCharacter).isEmpty then (.dollar, text)
      else (.bare (text.takeWhile isNameCharacter), text.dropWhile isNameCharacter) := by
  unfold segmentAfterDollar
  split
  · simp at other
  · rfl

/-- A segment that starts with a dollar sign is read back after the sign. -/
theorem segmentAfterDollar_written (starts : segment.written ++ rest = '$' :: text)
    (fits : segment.FitsBefore rest) : segmentAfterDollar text = (segment, rest) := by
  cases segment with
  | plain plain =>
      obtain ⟨nonempty, noDollar, _⟩ := fits
      obtain ⟨character, more, rfl⟩ := List.exists_cons_of_ne_nil nonempty
      simp only [Segment.written, List.cons_append, List.cons.injEq] at starts
      simp [starts.1] at noDollar
  | braced name =>
      have closed : text = '{' :: (name ++ '}' :: rest) := by
        simpa [Segment.written] using starts.symm
      rw [closed, segmentAfterDollar, Text.cutAt_append fits]
  | unclosed name =>
      obtain ⟨noBrace, rfl⟩ := fits
      have opened : text = '{' :: name := by simpa [Segment.written] using starts.symm
      rw [opened, segmentAfterDollar, Text.cutAt_eq_none_iff.mpr noBrace]
  | bare name =>
      obtain ⟨nonempty, inside, stops⟩ := fits
      have run : text = name ++ rest := by simpa [Segment.written] using starts.symm
      have taken := Text.takeWhile_run inside stops
      have other : (name ++ rest).head? ≠ some '{' := by
        obtain ⟨character, more, rfl⟩ := List.exists_cons_of_ne_nil nonempty
        have named := inside character (List.mem_cons_self ..)
        intro same
        rw [Option.some.inj same, isNameCharacter_brace] at named
        cases named
      rw [run, segmentAfterDollar_other _ other, taken, Text.dropWhile_run inside stops,
        if_neg (by simpa using nonempty)]
  | dollar =>
      obtain ⟨other, stops⟩ := fits
      have alone : text = rest := by simpa [Segment.written] using starts.symm
      rw [alone, segmentAfterDollar_other _ other, Text.takeWhile_of_stops stops]
      rfl

/-- The first segment is read back before every text that it fits to. -/
theorem firstSegment_written (starts : segment.written ++ rest = first :: text)
    (fits : segment.FitsBefore rest) : firstSegment first text = (segment, rest) := by
  by_cases dollar : first = '$'
  · rw [firstSegment, if_pos dollar]
    exact segmentAfterDollar_written (dollar ▸ starts) fits
  · cases segment with
    | plain plain =>
        obtain ⟨nonempty, noDollar, stops⟩ := fits
        obtain ⟨character, more, rfl⟩ := List.exists_cons_of_ne_nil nonempty
        simp only [Segment.written, List.cons_append, List.cons.injEq] at starts
        obtain ⟨rfl, rfl⟩ := starts
        have inside : ∀ other ∈ more, decide (other ≠ '$') := by
          intro other member
          rw [decide_eq_true_eq]
          rintro rfl
          exact noDollar (List.mem_cons_of_mem _ member)
        rw [firstSegment, if_neg dollar, Text.takeWhile_run inside stops,
          Text.dropWhile_run inside stops]
    | braced | unclosed | bare | dollar =>
        simp only [Segment.written, List.cons_append, List.cons.injEq] at starts
        exact absurd starts.1.symm dollar

theorem segmentAfterDollar_fits (found : segmentAfterDollar text = (segment, rest)) :
    segment.written ++ rest = '$' :: text ∧ segment.FitsBefore rest := by
  by_cases brace : text.head? = some '{'
  · obtain ⟨inner, rfl⟩ := List.head?_eq_some_iff.mp brace
    rw [segmentAfterDollar] at found
    cases cut : Text.cutAt '}' inner with
    | none =>
        rw [cut] at found
        cases found
        exact ⟨by simp [Segment.written], Text.cutAt_eq_none_iff.mp cut, rfl⟩
    | some halves =>
        rw [cut] at found
        cases found
        obtain ⟨rfl, noBrace⟩ := Text.cutAt_eq_some_iff.mp cut
        exact ⟨by simp [Segment.written], noBrace⟩
  · rw [segmentAfterDollar_other _ brace] at found
    have stops := Text.stopsRun_dropWhile isNameCharacter text
    split at found
    case isTrue none =>
      cases found
      have whole : text.dropWhile isNameCharacter = text := by
        simpa [List.isEmpty_iff.mp none] using
          List.takeWhile_append_dropWhile (p := isNameCharacter) (l := text)
      exact ⟨rfl, brace, whole ▸ stops⟩
    case isFalse nonempty =>
      cases found
      refine ⟨by simp [Segment.written, List.takeWhile_append_dropWhile], ?_, ?_, stops⟩
      · simpa using nonempty
      · intro character member
        exact List.mem_takeWhile_imp member

/-- The first segment is written at the start of the text and fits to what is left of it. -/
theorem firstSegment_fits (found : firstSegment first text = (segment, rest)) :
    segment.written ++ rest = first :: text ∧ segment.FitsBefore rest := by
  by_cases dollar : first = '$'
  · rw [firstSegment, if_pos dollar] at found
    rw [dollar]
    exact segmentAfterDollar_fits found
  · rw [firstSegment, if_neg dollar] at found
    cases found
    refine ⟨by simp [Segment.written, List.takeWhile_append_dropWhile], by simp, ?_,
      Text.stopsRun_dropWhile _ text⟩
    rw [List.mem_cons, not_or]
    refine ⟨Ne.symm dollar, ?_⟩
    intro member
    simpa using List.mem_takeWhile_imp member

/-- The division of a text is the one that the reader of segments finds. -/
theorem divides_iff {parts : List Segment} : Divides parts text ↔ parts = segments text := by
  constructor
  · intro divides
    induction divides with
    | nil => rw [segments]
    | @cons segment others rest fits divides inductionHypothesis =>
        cases written : segment.written ++ rest with
        | nil => cases segment <;> simp_all [Segment.written, Segment.FitsBefore]
        | cons first text =>
            rw [segments, firstSegment_written written fits, ← inductionHypothesis]
  · rintro rfl
    induction text using segments.induct with
    | case1 =>
        rw [segments]
        exact .nil
    | case2 first text inductionHypothesis =>
        obtain ⟨written, fits⟩ := firstSegment_fits (rfl : firstSegment first text = _)
        rw [segments, ← written]
        exact .cons fits inductionHypothesis

end ImpalaAdapter.Settings
