/-
This file reads options that are put behind other options.
-/

import ImpalaAdapter.Proofs.Connection.OptionReading

namespace ImpalaAdapter.Connection

open Text

variable {text : List Char} {mark : Char}

/-- The characters of options are those of their keys and values, in order. -/
def writtenCharacters (options : List (String × String)) : List Char :=
  options.flatMap fun option => option.1.toList ++ option.2.toList

theorem count_blanks {blanks : List Char} (blank : AllBlank blanks) (solid : isBlank mark = false) :
    blanks.count mark = 0 := by
  apply List.count_eq_zero_of_not_mem
  intro member
  exact absurd (blank mark member) (by simp [solid])

theorem count_trim (solid : isBlank mark = false) (text : List Char) :
    (trim text).count mark = text.count mark := by
  obtain ⟨before, after, blankBefore, blankAfter, split⟩ := padded_trim text
  conv_rhs => rw [split]
  rw [List.count_append, List.count_append, count_blanks blankBefore solid,
    count_blanks blankAfter solid, Nat.zero_add, Nat.add_zero]

theorem count_readOption (solid : isBlank mark = false) (different : mark ≠ '=')
    (entry : List Char) : (writtenCharacters [readOption entry]).count mark = entry.count mark := by
  rw [readOption]
  cases cut : cutAt '=' entry with
  | none => simp [writtenCharacters]
  | some parts =>
      obtain ⟨key, value⟩ := parts
      obtain ⟨rfl, _⟩ := cutAt_eq_some_iff.mp cut
      simp [writtenCharacters, count_trim solid, Ne.symm different]

/-- Reading neither loses nor repeats a character, unless it is a blank, a separator or an equals
sign. -/
theorem count_readEntries (solid : isBlank mark = false) (inside : separatesOptions mark = false)
    (different : mark ≠ '=') (text : List Char) :
    (writtenCharacters (readEntries text)).count mark = text.count mark := by
  have single (entry : List Char)
      (clear : ∀ character ∈ entry, separatesOptions character = false) :
      (writtenCharacters (readEntries entry)).count mark = entry.count mark := by
    rw [readEntries_entry clear, ← count_trim solid entry]
    split
    case isTrue blank =>
      rw [blank]
      rfl
    case isFalse => exact count_readOption solid different _
  induction text using separatorInduction separatesOptions with
  | clear entry clear => exact single entry clear
  | separated entry separator rest clear separated inductionHypothesis =>
      have other : separator ≠ mark := by
        rintro rfl
        exact absurd separated (by simp [inside])
      have divided : writtenCharacters (readEntries (entry ++ separator :: rest)) =
          writtenCharacters (readEntries entry) ++ writtenCharacters (readEntries rest) := by
        rw [readEntries_append_separator separated]
        exact List.flatMap_append
      rw [divided, List.count_append, single entry clear, inductionHypothesis, List.count_append,
        List.count_cons_of_ne other]

theorem head?_trim (text : List Char) : (trim text).head? = (trimStart text).head? := by
  obtain ⟨blanks, blank, split⟩ := exists_trimEnd (trimStart text)
  rw [← trim] at split
  cases trimmed : trim text with
  | nil =>
      rw [trimmed, List.nil_append] at split
      cases blanks with
      | nil => rw [split]
      | cons character others =>
          have solid := stopsRun_dropWhile isBlank text character (by rw [← trimStart, split]; rfl)
          exact absurd (blank character (List.mem_cons_self ..)) (by simp [solid])
  | cons character others => rw [split, trimmed, List.cons_append, List.head?_cons, List.head?_cons]

/-- A question mark that is dropped is missing in the options. -/
theorem readEntries_dropQuestionMarks_ne (marked : text.head? = some '?') :
    readEntries (dropQuestionMarks text) ≠ readEntries text := by
  obtain ⟨rest, rfl⟩ := List.head?_eq_some_iff.mp marked
  have dropped : dropQuestionMarks ('?' :: rest) = dropQuestionMarks rest := rfl
  have count (text : List Char) : (writtenCharacters (readEntries text)).count '?' = text.count '?' :=
    count_readEntries (by decide) (by decide) (by decide) text
  have fewer : (dropQuestionMarks rest).count '?' ≤ rest.count '?' :=
    (List.dropWhile_sublist _).count_le '?'
  intro same
  have counts := congrArg (fun options => (writtenCharacters options).count '?') same
  simp only [count, dropped, List.count_cons_self] at counts
  omega

/-- Options that are put behind a separator leave the options before it as they are. They are read
as they are read alone, unless they start with a question mark, which then belongs to a key. -/
theorem readOptions_append_iff {separator : Char} (separates : separator = ';' ∨ separator = '&')
    (first rest : String) :
    readOptions first <+: readOptions (first ++ String.singleton separator ++ rest) ∧
      (readOptions (first ++ String.singleton separator ++ rest) =
          readOptions first ++ readOptions rest ↔
        (trim rest.toList).head? ≠ some '?') := by
  have written : first ++ String.singleton separator ++ rest =
      String.ofList (first.toList ++ separator :: rest.toList) := by
    apply String.toList_inj.mp
    simp
  rw [written, readOptions_append_separator (separatesOptions_iff.mpr separates),
    String.ofList_toList, List.append_cancel_left_eq, head?_trim]
  refine ⟨List.prefix_append _ _, ?_⟩
  constructor
  · intro alone marked
    rw [readOptions_eq, ← readEntries_trimStart rest.toList] at alone
    exact readEntries_dropQuestionMarks_ne marked alone.symm
  · intro unmarked
    exact (readOptions_of_unmarked unmarked).symm

/-- The first text has question marks, a blank entry and a separator at its end. A question mark in
the second one does not lead, but one in the third does. -/
theorem readOptions_append_iff_markedText :
    ('&' = ';' ∨ '&' = '&') ∧
      readOptions (" ??; A = 1;" ++ String.singleton '&' ++ " B=?2;C") =
        readOptions " ??; A = 1;" ++ readOptions " B=?2;C" ∧
      readOptions " ??; A = 1;" = [("A", "1")] ∧
      readOptions " B=?2;C" = [("B", "?2"), ("C", "")] ∧
      readOptions (" ??; A = 1;" ++ String.singleton '&' ++ " ?B=2") ≠
        readOptions " ??; A = 1;" ++ readOptions " ?B=2" := by
  have unmarked : (trim " B=?2;C".toList).head? ≠ some '?' := by decide
  have marked : ¬ (trim " ?B=2".toList).head? ≠ some '?' := by decide
  refine ⟨.inr rfl, (readOptions_append_iff (.inr rfl) _ _).2.mpr unmarked, by decide, by decide, ?_⟩
  intro alone
  exact marked ((readOptions_append_iff (.inr rfl) _ _).2.mp alone)

end ImpalaAdapter.Connection
