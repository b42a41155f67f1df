/-
This file says which blanks the trimming of a text removes.
-/

import ImpalaAdapter.Proofs.Text.Run
import ImpalaAdapter.Text.Blank
import Mathlib.Data.List.DropRight

namespace ImpalaAdapter.Text

def AllBlank (text : List Char) : Prop :=
  ∀ character ∈ text, isBlank character

instance (text : List Char) : Decidable (AllBlank text) :=
  decidable_of_iff (text.all isBlank) List.all_eq_true

/-- The text neither starts nor ends with a blank. -/
def IsTrimmed (text : List Char) : Prop :=
  (∀ character ∈ text.head?, isBlank character = false) ∧
    ∀ character ∈ text.getLast?, isBlank character = false

instance (text : List Char) : Decidable (IsTrimmed text) :=
  decidable_of_iff (text.head?.all (!isBlank ·) ∧ text.getLast?.all (!isBlank ·)) <| by
    simp [IsTrimmed, Option.all_eq_true]

/-- The text is the content with blanks around it. -/
def Padded (content text : List Char) : Prop :=
  ∃ before after, AllBlank before ∧ AllBlank after ∧ text = before ++ content ++ after

theorem allBlank_nil : AllBlank [] := by
  simp [AllBlank]

variable {text blanks before after content : List Char} {character : Char}

/-- Only the capital letters of ASCII change in lower case. -/
theorem toLower_of_not_capital (outside : ¬ (65 ≤ character.toNat ∧ character.toNat ≤ 90)) :
    character.toLower = character :=
  dif_neg fun upper => outside ⟨upper.1, upper.2⟩

/-- A blank is no letter, so it has no other case. -/
theorem toLower_of_isBlank (blank : isBlank character) :
    character.toLower = character := by
  apply toLower_of_not_capital
  simp only [isBlank, Bool.or_eq_true, Bool.and_eq_true, decide_eq_true_eq, beq_iff_eq] at blank
  omega

theorem trimStart_blanks (blank : AllBlank blanks) : trimStart blanks = [] :=
  List.dropWhile_eq_nil_iff.mpr blank

theorem trimStart_blanks_append (blank : AllBlank blanks) :
    trimStart (blanks ++ text) = trimStart text :=
  List.dropWhile_append_of_pos blank

theorem trimEnd_append_blanks (blank : AllBlank blanks) :
    trimEnd (text ++ blanks) = trimEnd text := by
  have reversed : ∀ character ∈ blanks.reverse, isBlank character := by
    intro character member
    exact blank character (List.mem_reverse.mp member)
  rw [trimEnd, List.reverse_append, List.dropWhile_append_of_pos reversed, trimEnd]

/-- The blanks at the start end before a character that is none. -/
theorem trimStart_append_cons (solid : isBlank character = false) :
    trimStart (before ++ character :: after) = trimStart before ++ character :: after :=
  dropWhile_append_cons solid

theorem trimEnd_append_cons (solid : isBlank character = false) :
    trimEnd (before ++ character :: after) = before ++ character :: trimEnd after := by
  rw [trimEnd, List.reverse_append, List.reverse_cons, List.append_assoc, List.singleton_append]
  have trimmed : trimStart (after.reverse ++ character :: before.reverse) =
      trimStart after.reverse ++ character :: before.reverse := trimStart_append_cons solid
  rw [trimStart] at trimmed
  rw [trimmed]
  simp [trimEnd, trimStart]

theorem trim_append_cons (solid : isBlank character = false) :
    trim (before ++ character :: after) = trimStart before ++ character :: trimEnd after := by
  rw [trim, trimStart_append_cons solid, trimEnd_append_cons solid]

theorem exists_trimStart (text : List Char) :
    ∃ blanks, AllBlank blanks ∧ text = blanks ++ trimStart text := by
  refine ⟨text.takeWhile isBlank, ?_, List.takeWhile_append_dropWhile.symm⟩
  intro character member
  exact List.mem_takeWhile_imp member

theorem exists_trimEnd (text : List Char) :
    ∃ blanks, AllBlank blanks ∧ text = trimEnd text ++ blanks := by
  obtain ⟨blanks, blank, split⟩ := exists_trimStart text.reverse
  refine ⟨blanks.reverse, ?_, ?_⟩
  · intro character member
    exact blank character (List.mem_reverse.mp member)
  · rw [trimEnd, ← List.reverse_append, ← trimStart, ← split, List.reverse_reverse]

/-- Trimming removes blanks from the two ends and keeps the rest. -/
theorem padded_trim (text : List Char) : Padded (trim text) text := by
  obtain ⟨before, blankBefore, start⟩ := exists_trimStart text
  obtain ⟨after, blankAfter, finish⟩ := exists_trimEnd (trimStart text)
  refine ⟨before, after, blankBefore, blankAfter, ?_⟩
  rw [List.append_assoc, trim, ← finish, ← start]

theorem padded_self (text : List Char) : Padded text text :=
  ⟨[], [], allBlank_nil, allBlank_nil, by simp⟩

theorem Padded.mem (padded : Padded content text) (member : character ∈ text) :
    isBlank character ∨ character ∈ content := by
  obtain ⟨before, after, blankBefore, blankAfter, rfl⟩ := padded
  rcases List.mem_append.mp member with member | member
  · rcases List.mem_append.mp member with member | member
    · exact .inl (blankBefore character member)
    · exact .inr member
  · exact .inl (blankAfter character member)

theorem mem_of_mem_trim (member : character ∈ trim text) : character ∈ text := by
  obtain ⟨before, after, _, _, split⟩ := padded_trim text
  rw [split]
  simp [member]

theorem length_trim_le (text : List Char) : (trim text).length ≤ text.length := by
  obtain ⟨before, after, _, _, split⟩ := padded_trim text
  have lengths := congrArg List.length split
  simp only [List.length_append] at lengths
  omega

theorem trim_blanks_append (blank : AllBlank blanks) : trim (blanks ++ text) = trim text := by
  rw [trim, trimStart_blanks_append blank, trim]

theorem trim_blanks (blank : AllBlank blanks) : trim blanks = [] := by
  rw [trim, trimStart_blanks blank]
  rfl

theorem trim_append_blanks (blank : AllBlank blanks) : trim (text ++ blanks) = trim text := by
  rw [trim, trimStart, List.dropWhile_append]
  split
  case isTrue empty =>
    have vanished : trimStart text = [] := List.isEmpty_iff.mp empty
    rw [trim, vanished, ← trimStart, trimStart_blanks blank]
  case isFalse => rw [← trimStart, trimEnd_append_blanks blank, trim]

theorem trim_trimStart (text : List Char) : trim (trimStart text) = trim text := by
  obtain ⟨blanks, blank, split⟩ := exists_trimStart text
  conv_rhs => rw [split, trim_blanks_append blank]

theorem trim_trimEnd (text : List Char) : trim (trimEnd text) = trim text := by
  obtain ⟨blanks, blank, split⟩ := exists_trimEnd text
  conv_rhs => rw [split, trim_append_blanks blank]

theorem isTrimmed_trim (text : List Char) : IsTrimmed (trim text) := by
  constructor
  · intro character member
    obtain ⟨blanks, _, split⟩ := exists_trimEnd (trimStart text)
    have first : (trimStart text).head? = some character := by
      rw [split, List.head?_append, ← trim, Option.mem_def.mp member, Option.some_or]
    exact stopsRun_dropWhile isBlank text character first
  · intro character member
    rw [trim, trimEnd, List.getLast?_reverse] at member
    exact stopsRun_dropWhile isBlank (trimStart text).reverse character member

theorem trimStart_of_isTrimmed (trimmed : IsTrimmed text) : trimStart text = text :=
  dropWhile_of_stops trimmed.1

theorem trim_of_isTrimmed (trimmed : IsTrimmed text) : trim text = text := by
  have stops : StopsRun isBlank text.reverse := by
    rw [StopsRun, List.head?_reverse]
    exact trimmed.2
  rw [trim, trimStart_of_isTrimmed trimmed, trimEnd, dropWhile_of_stops stops, List.reverse_reverse]

/-- A content without blanks at its ends is kept in front of any text. -/
theorem IsTrimmed.trim_append (trimmed : IsTrimmed content) (nonempty : content ≠ [])
    (after : List Char) : trim (content ++ after) = content ++ trimEnd after := by
  rcases List.eq_nil_or_concat content with empty | ⟨before, last, rfl⟩
  · exact (nonempty empty).elim
  · have solid := trimmed.2 last (by simp)
    have start : trimStart before = before := by
      apply dropWhile_of_stops
      intro character first
      apply trimmed.1
      simp [Option.mem_def.mp first]
    rw [List.concat_eq_append, List.append_assoc, List.singleton_append, trim_append_cons solid,
      start, List.append_assoc, List.singleton_append]

/-- Nothing is left of blanks. -/
theorem IsTrimmed.eq_nil (trimmed : IsTrimmed text) (blank : AllBlank text) : text = [] := by
  rw [← trim_of_isTrimmed trimmed, trim_blanks blank]

/-- The blanks around a trimmed content are what trimming removes. -/
theorem Padded.trim_eq (padded : Padded content text) (trimmed : IsTrimmed content) :
    trim text = content := by
  obtain ⟨before, after, blankBefore, blankAfter, rfl⟩ := padded
  rw [trim_append_blanks blankAfter, trim_blanks_append blankBefore, trim_of_isTrimmed trimmed]

end ImpalaAdapter.Text
