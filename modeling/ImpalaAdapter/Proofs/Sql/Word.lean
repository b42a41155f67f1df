/-
This file describes the words of SQL: the names of functions and the keywords.
-/

import ImpalaAdapter.Proofs.Number.Numeral
import Mathlib.Tactic.Tauto

namespace ImpalaAdapter.Sql

def opensWord (character : Char) : Bool :=
  character.isAlpha || character == '_'

def continuesWord (character : Char) : Bool :=
  character.isAlphanum || character == '_'

/-- A word has a letter or an underscore at its start and no other signs than these and digits. -/
def isWord (name : String) : Bool :=
  match name.toList with
  | [] => false
  | first :: rest => opensWord first && rest.all continuesWord

theorem continuesWord_of_opensWord {character : Char} (opens : opensWord character) :
    continuesWord character := by
  simp only [opensWord, continuesWord, Char.isAlphanum, Bool.or_eq_true] at *
  tauto

theorem exists_cons_of_isWord {name : String} (isName : isWord name) :
    ∃ first rest, name.toList = first :: rest ∧ opensWord first ∧
      ∀ character ∈ rest, continuesWord character := by
  rw [isWord] at isName
  cases letters : name.toList with
  | nil => simp [letters] at isName
  | cons first rest =>
      rw [letters, Bool.and_eq_true, List.all_eq_true] at isName
      exact ⟨first, rest, rfl, isName⟩

theorem continuesWord_of_isWord {name : String} (isName : isWord name) :
    ∀ character ∈ name.toList, continuesWord character := by
  obtain ⟨first, rest, letters, opens, continues⟩ := exists_cons_of_isWord isName
  rw [letters]
  intro character member
  rcases List.mem_cons.mp member with rfl | member
  · exact continuesWord_of_opensWord opens
  · exact continues character member

/-- A word ends before a character that belongs to no word. -/
theorem word_split {name : String} {rest : List Char} (isName : isWord name)
    (stops : Text.StopsRun continuesWord rest) :
    (name.toList ++ rest).takeWhile continuesWord = name.toList ∧
      (name.toList ++ rest).dropWhile continuesWord = rest :=
  ⟨Text.takeWhile_run (continuesWord_of_isWord isName) stops,
    Text.dropWhile_run (continuesWord_of_isWord isName) stops⟩

/-- No word starts with a digit. -/
theorem opensWord_of_isDigit {character : Char} (digit : isDigit character) :
    opensWord character = false := by
  have bound := (toNat_of_isDigit digit).2
  have noUpper : ¬ character.isUpper := by
    intro upper
    have above : 65 ≤ character.toNat :=
      UInt32.le_iff_toNat_le.mp (of_decide_eq_true upper).1
    omega
  have noLower : ¬ character.isLower := by
    intro lower
    have above : 97 ≤ character.toNat :=
      UInt32.le_iff_toNat_le.mp (of_decide_eq_true (Bool.and_eq_true_iff.mp lower).1)
    omega
  have noUnderscore : character ≠ '_' := by
    rintro rfl
    exact absurd digit (by decide)
  show ((character.isUpper || character.isLower) || character == '_') = false
  simp [noUpper, noLower, noUnderscore]

end ImpalaAdapter.Sql
