/-
This file takes the reading of options apart into the reading of single entries.
-/

import ImpalaAdapter.Connection.Options
import ImpalaAdapter.Proofs.Text.Cut
import ImpalaAdapter.Proofs.Text.Trim

namespace ImpalaAdapter.Connection

open Text

variable {text entry first rest blanks : List Char} {separator : Char}

/-- The entries on the two sides of a separator are read on their own. -/
theorem readEntries_append_separator (separated : separatesOptions separator) :
    readEntries (first ++ separator :: rest) = readEntries first ++ readEntries rest := by
  simp [readEntries, splitAt_append_separator separated]

theorem readEntries_entry (clear : ∀ character ∈ entry, separatesOptions character = false) :
    readEntries entry = if trim entry = [] then [] else [readOption (trim entry)] := by
  rw [readEntries, splitAt_of_clear clear]
  by_cases blank : trim entry = []
  · simp [blank]
  · simp [blank]

theorem separatesOptions_iff : separatesOptions separator ↔ separator = ';' ∨ separator = '&' := by
  rw [separatesOptions, Bool.or_eq_true, beq_iff_eq, beq_iff_eq, or_comm]

/-- No blank separates options. -/
theorem separatesOptions_of_isBlank {character : Char} (blank : isBlank character) :
    separatesOptions character = false := by
  apply eq_false_of_ne_true
  intro separates
  rcases separatesOptions_iff.mp separates with rfl | rfl
  · exact absurd blank (by decide)
  · exact absurd blank (by decide)

theorem clear_of_allBlank (blank : AllBlank blanks) :
    ∀ character ∈ blanks, separatesOptions character = false := by
  intro character member
  exact separatesOptions_of_isBlank (blank character member)

/-- Entries with the same trimmed text are read alike. -/
theorem readEntries_of_trim_eq {entry other : List Char}
    (clear : ∀ character ∈ entry, separatesOptions character = false)
    (clearOther : ∀ character ∈ other, separatesOptions character = false)
    (same : trim entry = trim other) : readEntries entry = readEntries other := by
  rw [readEntries_entry clear, readEntries_entry clearOther, same]

theorem readEntries_blanks_append (blank : AllBlank blanks) (text : List Char) :
    readEntries (blanks ++ text) = readEntries text := by
  have clearBlanks := clear_of_allBlank blank
  have joined (part : List Char)
      (clear : ∀ character ∈ part, separatesOptions character = false) :
      readEntries (blanks ++ part) = readEntries part :=
    readEntries_of_trim_eq (List.forall_mem_append.mpr ⟨clearBlanks, clear⟩) clear
      (trim_blanks_append blank)
  induction text using separatorInduction separatesOptions with
  | clear part clear => exact joined part clear
  | separated part separator rest clear separated _ =>
      rw [← List.append_assoc, readEntries_append_separator separated, joined part clear,
        readEntries_append_separator separated]

theorem readEntries_append_blanks (blank : AllBlank blanks) (text : List Char) :
    readEntries (text ++ blanks) = readEntries text := by
  have clearBlanks := clear_of_allBlank blank
  induction text using separatorInduction separatesOptions with
  | clear part clear =>
      exact readEntries_of_trim_eq (List.forall_mem_append.mpr ⟨clear, clearBlanks⟩) clear
        (trim_append_blanks blank)
  | separated part separator rest clear separated inductionHypothesis =>
      rw [List.append_assoc, List.cons_append, readEntries_append_separator separated,
        inductionHypothesis, readEntries_append_separator separated]

theorem readEntries_trimStart (text : List Char) :
    readEntries (trimStart text) = readEntries text := by
  obtain ⟨blanks, blank, split⟩ := exists_trimStart text
  conv_rhs => rw [split, readEntries_blanks_append blank]

theorem readEntries_trimEnd (text : List Char) :
    readEntries (trimEnd text) = readEntries text := by
  obtain ⟨blanks, blank, split⟩ := exists_trimEnd text
  conv_rhs => rw [split, readEntries_append_blanks blank]

theorem dropQuestionMarks_of_head? (other : text.head? ≠ some '?') :
    dropQuestionMarks text = text := by
  cases text with
  | nil => rfl
  | cons character rest =>
      have different : character ≠ '?' := by simpa using other
      simp [dropQuestionMarks, different]

/-- The question marks at the start and the blanks at the end do not meet. -/
theorem dropQuestionMarks_trimEnd (text : List Char) :
    dropQuestionMarks (trimEnd text) = trimEnd (dropQuestionMarks text) := by
  induction text with
  | nil => rfl
  | cons character rest inductionHypothesis =>
      by_cases mark : character = '?'
      · subst mark
        have solid : trimEnd ([] ++ '?' :: rest) = '?' :: trimEnd rest :=
          trimEnd_append_cons (by decide)
        rw [List.nil_append] at solid
        have dropped (after : List Char) :
            dropQuestionMarks ('?' :: after) = dropQuestionMarks after := rfl
        rw [solid, dropped, dropped, inductionHypothesis]
      · have kept : dropQuestionMarks (character :: rest) = character :: rest :=
          dropQuestionMarks_of_head? (by simpa using mark)
        rw [kept]
        apply dropQuestionMarks_of_head?
        obtain ⟨blanks, _, split⟩ := exists_trimEnd (character :: rest)
        intro marked
        have first : (character :: rest).head? = some '?' := by
          rw [split, List.head?_append, marked, Option.some_or]
        exact mark (Option.some.inj first)

/-- Only the blanks before the question marks matter, since every entry is trimmed by itself. -/
theorem readOptions_eq (text : String) :
    readOptions text = readEntries (dropQuestionMarks (trimStart text.toList)) := by
  rw [readOptions, trim, dropQuestionMarks_trimEnd, readEntries_trimEnd]

/-- Without question marks at the start a text is read entry by entry. -/
theorem readOptions_of_unmarked {text : String}
    (unmarked : (trimStart text.toList).head? ≠ some '?') :
    readOptions text = readEntries text.toList := by
  rw [readOptions_eq, dropQuestionMarks_of_head? unmarked, readEntries_trimStart]

/-- What comes after a separator does not change how the options before it are read, and question
marks behind it belong to their entry. -/
theorem readOptions_append_separator (separated : separatesOptions separator)
    (first rest : List Char) :
    readOptions (String.ofList (first ++ separator :: rest)) =
      readOptions (String.ofList first) ++ readEntries rest := by
  have other : (separator == '?') = false ∧ isBlank separator = false := by
    rcases separatesOptions_iff.mp separated with rfl | rfl
    · decide
    · decide
  have opened : dropQuestionMarks (trimStart first ++ separator :: rest) =
      dropQuestionMarks (trimStart first) ++ separator :: rest := dropWhile_append_cons other.1
  rw [readOptions_eq, readOptions_eq, String.toList_ofList, String.toList_ofList,
    trimStart_append_cons other.2, opened, readEntries_append_separator separated]

/-- The key and the value of an entry are trimmed on both sides of its first equals sign. -/
theorem readEntries_pair {key value : List Char} (noEquals : '=' ∉ key)
    (clear : ∀ character ∈ key ++ '=' :: value, separatesOptions character = false) :
    readEntries (key ++ '=' :: value) =
      [(String.ofList (trim key), String.ofList (trim value))] := by
  have trimmed : trim (key ++ '=' :: value) = trimStart key ++ '=' :: trimEnd value :=
    trim_append_cons (by decide)
  have absent : '=' ∉ trimStart key := by
    obtain ⟨blanks, _, split⟩ := exists_trimStart key
    intro member
    apply noEquals
    rw [split]
    exact List.mem_append_right _ member
  rw [readEntries_entry clear, trimmed, if_neg (by simp), readOption, cutAt_append absent]
  simp only [trim_trimStart, trim_trimEnd]

end ImpalaAdapter.Connection
