/-
This file shows that a quoted text ends at its own closing quote.
-/

import ImpalaAdapter.Text.Quoted
import ImpalaAdapter.Proofs.Text.Run

namespace ImpalaAdapter.Text

@[simp] theorem toList_quoted (quote : Char) (text : String) :
    (quoted quote text).toList = quote :: doubled quote text.toList ++ [quote] := by
  simp [quoted]

/-- The scanner keeps a character that is no quote. -/
theorem scanQuoted_other {quote character : Char} (rest : List Char)
    (different : character ≠ quote) :
    scanQuoted quote (character :: rest) =
      (scanQuoted quote rest).map fun found => (character :: found.1, found.2) := by
  conv_lhs => unfold scanQuoted
  simp [different]

/-- The scanner undoes the doubling and stops before a character that is no quote. -/
theorem scanQuoted_doubled (quote : Char) (text rest : List Char)
    (stops : StopsRun (· == quote) rest) :
    scanQuoted quote (doubled quote text ++ quote :: rest) = some (text, rest) := by
  induction text with
  | nil =>
      cases rest with
      | nil => simp [doubled, scanQuoted]
      | cons next rest =>
          have different : next ≠ quote := by simpa using stops
          simp [doubled, scanQuoted, different]
  | cons character text inductionHypothesis =>
      rw [doubled, List.flatMap_cons, ← doubled]
      by_cases same : character = quote
      · subst same
        simp [scanQuoted, inductionHypothesis]
      · simp [scanQuoted_other _ same, same, inductionHypothesis]

/-- The scanner always moves on. -/
theorem scanQuoted_shorter {quote : Char} {text content rest : List Char}
    (found : scanQuoted quote text = some (content, rest)) : rest.length < text.length := by
  induction text using scanQuoted.induct quote generalizing content with
  | case1 => cases found
  | case2 after inductionHypothesis =>
      rw [scanQuoted, if_pos rfl] at found
      simp only [if_true, Option.map_eq_some_iff] at found
      obtain ⟨⟨inner, remaining⟩, scanned, equal⟩ := found
      cases equal
      have shorter : remaining.length < after.length := inductionHypothesis scanned
      show remaining.length < after.length + 1 + 1
      omega
  | case3 next after different =>
      rw [scanQuoted, if_pos rfl] at found
      simp only [if_neg different, Option.some.injEq, Prod.mk.injEq] at found
      rw [← found.2]
      exact Nat.lt_succ_self _
  | case4 =>
      simp [scanQuoted] at found
      simp [← found.2]
  | case5 character rest different inductionHypothesis =>
      rw [scanQuoted_other _ different, Option.map_eq_some_iff] at found
      obtain ⟨⟨inner, remaining⟩, scanned, equal⟩ := found
      cases equal
      exact Nat.lt_succ_of_lt (inductionHypothesis scanned)

end ImpalaAdapter.Text
