/-
This file says where a text is cut at its first divider, which parts its separators make, and which
phrases occur in it.
-/

import ImpalaAdapter.Text.Search

namespace ImpalaAdapter.Text

variable {divider : Char} {text before after : List Char}

/-- A phrase occurs in a text when the text has it between a beginning and an end. -/
theorem occursIn_iff {phrase : List Char} : occursIn phrase text ↔ phrase <:+: text := by
  induction text with
  | nil => rw [occursIn, List.isEmpty_iff, List.infix_nil]
  | cons character rest inductionHypothesis =>
      rw [occursIn, Bool.or_eq_true, List.isPrefixOf_iff_prefix, inductionHypothesis,
        List.infix_cons_iff]

/-- The cut is at the first divider, so the text before it has none. -/
theorem cutAt_append (absent : divider ∉ before) :
    cutAt divider (before ++ divider :: after) = some (before, after) := by
  induction before with
  | nil => simp [cutAt]
  | cons character before inductionHypothesis =>
      rw [List.mem_cons, not_or] at absent
      rw [List.cons_append, cutAt, if_neg (Ne.symm absent.1), inductionHypothesis absent.2]
      rfl

theorem cutAt_eq_none_iff : cutAt divider text = none ↔ divider ∉ text := by
  induction text with
  | nil => simp [cutAt]
  | cons character rest inductionHypothesis =>
      by_cases same : character = divider
      · simp [cutAt, same]
      · simp [cutAt, same, Ne.symm same, inductionHypothesis]

/-- A cut gives back the text, and nothing before it is a divider. -/
theorem cutAt_eq_some_iff :
    cutAt divider text = some (before, after) ↔
      text = before ++ divider :: after ∧ divider ∉ before := by
  constructor
  · intro cut
    induction text generalizing before with
    | nil => cases cut
    | cons character rest inductionHypothesis =>
        rw [cutAt] at cut
        split at cut
        case isTrue same =>
          cases cut
          simp [same]
        case isFalse different =>
          obtain ⟨⟨inner, remaining⟩, found, equal⟩ := Option.map_eq_some_iff.mp cut
          cases equal
          obtain ⟨rfl, absent⟩ := inductionHypothesis found
          exact ⟨rfl, by simp [absent, Ne.symm different]⟩
  · rintro ⟨rfl, absent⟩
    exact cutAt_append absent

section
variable {mark : Char} {first rest : List Char}

/-- A text that is divided in two ways is divided at one place, or what stands before one divider
goes on past the other one. -/
theorem append_cons_cases (same : before ++ divider :: after = first ++ mark :: rest) :
    (before = first ∧ divider = mark ∧ after = rest) ∨
      (∃ more, first = before ++ divider :: more ∧ after = more ++ mark :: rest) ∨
        ∃ more, before = first ++ mark :: more ∧ rest = more ++ divider :: after := by
  rcases List.append_eq_append_iff.mp same with ⟨between, rfl, divided⟩ | ⟨between, rfl, divided⟩
  · rcases List.cons_eq_append_iff.mp divided with ⟨rfl, rests⟩ | ⟨more, rfl, rests⟩
    · obtain ⟨rfl, rfl⟩ := List.cons.inj rests
      exact .inl ⟨(List.append_nil _).symm, rfl, rfl⟩
    · exact .inr (.inl ⟨more, rfl, rests⟩)
  · rcases List.cons_eq_append_iff.mp divided with ⟨rfl, rests⟩ | ⟨more, rfl, rests⟩
    · obtain ⟨rfl, rfl⟩ := List.cons.inj rests
      exact .inl ⟨List.append_nil _, rfl, rfl⟩
    · exact .inr (.inr ⟨more, rfl, rests⟩)

/-- The first divider of a text is in one place. -/
theorem append_divider_inj (absent : divider ∉ before) (absentFirst : divider ∉ first)
    (same : before ++ divider :: after = first ++ divider :: rest) :
    before = first ∧ after = rest := by
  rcases append_cons_cases same with ⟨equal, _, rests⟩ | ⟨more, rfl, _⟩ | ⟨more, rfl, _⟩
  · exact ⟨equal, rests⟩
  · exact absurd (by simp) absentFirst
  · exact absurd (by simp) absent

/-- A mark that does not come before the divider comes after it. -/
theorem exists_append_divider (different : divider ≠ mark) (absent : mark ∉ before)
    (same : before ++ divider :: after = first ++ mark :: rest) :
    ∃ more, first = before ++ divider :: more := by
  rcases append_cons_cases same with ⟨_, equal, _⟩ | ⟨more, longer, _⟩ | ⟨more, rfl, _⟩
  · exact absurd equal different
  · exact ⟨more, longer⟩
  · exact absurd (by simp) absent

end

section
variable {separates : Char → Bool} {text first rest part : List Char} {separator : Char}

theorem splitAt_ne_nil (separates : Char → Bool) (text : List Char) :
    splitAt separates text ≠ [] := by
  cases text with
  | nil => simp [splitAt]
  | cons character rest =>
      rw [splitAt]
      split
      · simp
      · split <;> simp

/-- A character that does not separate belongs to the first part. -/
theorem splitAt_cons {character : Char} (clear : separates character = false) :
    splitAt separates (character :: rest) =
      (splitAt separates rest).modifyHead (character :: ·) := by
  rw [splitAt, if_neg (by simp [clear])]
  cases parts : splitAt separates rest with
  | nil => exact absurd parts (splitAt_ne_nil separates rest)
  | cons part parts => rfl

/-- The parts on the two sides of a separator are independent. -/
theorem splitAt_append_separator (separated : separates separator) :
    splitAt separates (first ++ separator :: rest) =
      splitAt separates first ++ splitAt separates rest := by
  induction first with
  | nil => simp [splitAt, separated]
  | cons character first inductionHypothesis =>
      by_cases clear : separates character = false
      · rw [List.cons_append, splitAt_cons clear, splitAt_cons clear, inductionHypothesis]
        cases parts : splitAt separates first with
        | nil => exact absurd parts (splitAt_ne_nil separates first)
        | cons part parts => rfl
      · rw [Bool.not_eq_false] at clear
        simp [splitAt, clear, inductionHypothesis]

/-- A text without separators is its only part. -/
theorem splitAt_of_clear (clear : ∀ character ∈ text, separates character = false) :
    splitAt separates text = [text] := by
  induction text with
  | nil => rfl
  | cons character rest inductionHypothesis =>
      have clearRest := fun other member => clear other (List.mem_cons_of_mem _ member)
      rw [splitAt_cons (clear character (List.mem_cons_self ..)), inductionHypothesis clearRest]
      rfl

/-- A text is its first part alone, or its first part with a separator and more behind it. The
characters of the first part are collected until a separator comes. -/
theorem separatorInduction (separates : Char → Bool) {motive : List Char → Prop}
    (clear : ∀ part, (∀ character ∈ part, separates character = false) → motive part)
    (separated : ∀ part separator rest, (∀ character ∈ part, separates character = false) →
      separates separator → motive rest → motive (part ++ separator :: rest))
    (text : List Char) : motive text := by
  suffices collected : ∀ part, (∀ character ∈ part, separates character = false) →
      motive (part ++ text) from collected [] (by simp)
  induction text with
  | nil =>
      intro part free
      rw [List.append_nil]
      exact clear part free
  | cons character rest inductionHypothesis =>
      intro part free
      by_cases belongs : separates character = false
      · have longer := inductionHypothesis (part ++ [character])
          (List.forall_mem_append.mpr ⟨free, by simpa using belongs⟩)
        rwa [List.append_assoc, List.singleton_append] at longer
      · rw [Bool.not_eq_false] at belongs
        exact separated part character rest free belongs (inductionHypothesis [] (by simp))

end

end ImpalaAdapter.Text
