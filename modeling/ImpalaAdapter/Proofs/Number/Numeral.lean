/-
This file shows that a numeral reads back as the number that it was written for, and says which
digit it starts with.
-/

import ImpalaAdapter.Number.Numeral
import ImpalaAdapter.Proofs.Text.Run
import ImpalaAdapter.Text.Blank

namespace ImpalaAdapter

theorem isDigit_eq_charIsDigit (character : Char) : isDigit character = character.isDigit := by
  simp only [isDigit, Char.isDigit, Char.le_def]

theorem toNat_of_isDigit {character : Char} (digit : isDigit character) :
    48 ≤ character.toNat ∧ character.toNat ≤ 57 := by
  simp only [isDigit, Bool.and_eq_true, decide_eq_true_eq, Char.le_def,
    UInt32.le_iff_toNat_le] at digit
  exact digit

/-- No digit is blank. -/
theorem isBlank_of_isDigit {character : Char} (digit : isDigit character) :
    Text.isBlank character = false := by
  obtain ⟨atLeast, atMost⟩ := toNat_of_isDigit digit
  have solid : ¬ Text.isBlank character := by
    simp only [Text.isBlank, Bool.or_eq_true, Bool.and_eq_true, decide_eq_true_eq, beq_iff_eq]
    omega
  exact Bool.eq_false_iff.mpr solid

theorem isDigit_of_mem_digits (number : Nat) : ∀ character ∈ digits number, isDigit character := by
  intro character member
  rw [isDigit_eq_charIsDigit]
  exact Nat.isDigit_of_mem_toDigits (by decide) (by decide) member

@[simp] theorem digits_ne_nil (number : Nat) : digits number ≠ [] :=
  Nat.toDigits_ne_nil

theorem not_mem_digits {character : Char} (number : Nat) (noDigit : isDigit character = false) :
    character ∉ digits number := by
  intro member
  rw [isDigit_of_mem_digits number character member] at noDigit
  cases noDigit

theorem toList_toString (number : Nat) : (toString number).toList = digits number := by
  simp [digits]

theorem toList_toString_int (number : Int) : (toString number).toList = signedDigits number := by
  cases number with
  | ofNat magnitude => exact toList_toString magnitude
  | negSucc before =>
      have sign : toString (Int.negSucc before) = "-" ++ toString (before + 1) := rfl
      rw [sign, String.toList_append, toList_toString, signedDigits,
        if_pos (Int.negSucc_lt_zero before)]
      rfl

/-- A numeral starts with a digit. -/
theorem exists_cons_digits (number : Nat) :
    ∃ first rest, digits number = first :: rest ∧ isDigit first := by
  obtain ⟨first, rest, opening⟩ := List.exists_cons_of_ne_nil (digits_ne_nil number)
  exact ⟨first, rest, opening, isDigit_of_mem_digits number first (by simp [opening])⟩

/-- Each digit counts ten times as much as the next one. -/
theorem numeralValue_eq_ofDigitChars (numeral : List Char) :
    numeralValue numeral = Nat.ofDigitChars 10 numeral 0 := by
  rw [Nat.ofDigitChars_eq_foldl]
  simp [numeralValue, valueInBase, digitValue, List.foldl_map, Nat.mul_comm]

/-- The numeral of a number has that value. -/
@[simp] theorem numeralValue_digits (number : Nat) : numeralValue (digits number) = number := by
  rw [numeralValue_eq_ofDigitChars]
  exact Nat.ofDigitChars_ten_toDigits

/-- Digits are read as their value, when there are any and the value is within the limit. -/
theorem readNumeral?_of_isDigit {numeral : List Char} (limit : Nat)
    (inside : ∀ character ∈ numeral, isDigit character) :
    readNumeral? limit numeral =
      if numeral ≠ [] ∧ numeralValue numeral ≤ limit then some (numeralValue numeral)
      else none := by
  have noOther : numeral.all isDigit := List.all_eq_true.mpr inside
  by_cases empty : numeral = []
  · rw [readNumeral?, if_pos (by simp [empty]), if_neg (by simp [empty])]
  · rw [readNumeral?, if_neg (by simp [empty, noOther])]
    simp [empty]

theorem readNumeral?_eq_some_iff {limit value : Nat} {numeral : List Char} :
    readNumeral? limit numeral = some value ↔
      numeral ≠ [] ∧ (∀ character ∈ numeral, isDigit character) ∧
        Nat.ofDigitChars 10 numeral 0 = value ∧ value ≤ limit := by
  rw [← numeralValue_eq_ofDigitChars]
  by_cases inside : ∀ character ∈ numeral, isDigit character
  · rw [readNumeral?_of_isDigit limit inside]
    constructor
    · intro found
      obtain ⟨⟨nonempty, within⟩, same⟩ := Option.ite_none_right_eq_some.mp found
      cases same
      exact ⟨nonempty, inside, rfl, within⟩
    · rintro ⟨nonempty, _, rfl, within⟩
      rw [if_pos ⟨nonempty, within⟩]
  · have other : numeral.all isDigit = false := by
      rw [← Bool.not_eq_true, List.all_eq_true]
      exact inside
    rw [readNumeral?, if_pos (by simp [other])]
    constructor
    · intro found
      cases found
    · intro spelled
      exact absurd spelled.2.1 inside

theorem isDigit_of_mem_padded (width number : Nat) :
    ∀ character ∈ padded width number, isDigit character := by
  intro character member
  rcases List.mem_append.mp member with filler | digit
  · rw [List.eq_of_mem_replicate filler]
    decide
  · exact isDigit_of_mem_digits number character digit

theorem padded_ne_nil (width number : Nat) : padded width number ≠ [] :=
  List.append_ne_nil_of_right_ne_nil _ (digits_ne_nil number)

theorem length_padded (width number : Nat) :
    (padded width number).length = max width (digits number).length := by
  rw [padded, List.length_append, List.length_replicate]
  omega

/-- A number that fits the width is written with exactly that many digits. -/
theorem length_padded_of_lt {width number : Nat} (positive : 0 < width)
    (fits : number < Nat.pow 10 width) : (padded width number).length = width := by
  have short : (digits number).length ≤ width :=
    (Nat.length_toDigits_le_iff (by decide) positive).mpr fits
  rw [length_padded]
  omega

theorem numeralValue_zero_cons (numeral : List Char) :
    numeralValue ('0' :: numeral) = numeralValue numeral := rfl

/-- The zeros that fill a numeral up leave its value. -/
@[simp] theorem numeralValue_padded (width number : Nat) :
    numeralValue (padded width number) = number := by
  rw [padded]
  induction width - (digits number).length with
  | zero => simp
  | succ filler inductionHypothesis =>
      rw [List.replicate_succ, List.cons_append, numeralValue_zero_cons, inductionHypothesis]

theorem digits_of_lt {number : Nat} (single : number < 10) : digits number = [number.digitChar] :=
  Nat.toDigits_of_lt_base single

/-- The last digit of a numeral is the one of the lowest place. -/
theorem digits_concat {number : Nat} (several : ¬ number < 10) :
    digits number = digits (number / 10) ++ [(number % 10).digitChar] := by
  rw [digits, Nat.toDigits_eq_if (by decide), if_neg several, digits]

theorem padded_one {digit : Nat} (single : digit < 10) : padded 1 digit = [digit.digitChar] := by
  rw [padded, digits_of_lt single]
  rfl

/-- A wider numeral has one more digit at its end. -/
theorem padded_succ {width : Nat} (positive : 0 < width) (number : Nat) :
    padded (width + 1) number = padded width (number / 10) ++ [(number % 10).digitChar] := by
  by_cases single : number < 10
  · obtain ⟨filler, rfl⟩ := Nat.exists_eq_add_of_lt positive
    have zero : number / 10 = 0 := by omega
    have same : number % 10 = number := by omega
    rw [padded, padded, digits_of_lt single, zero, same, digits_of_lt (by decide)]
    simp [List.replicate_succ']
  · have room : width + 1 - ((digits (number / 10)).length + 1) =
        width - (digits (number / 10)).length := by
      omega
    rw [padded, padded, digits_concat single, List.length_append, List.length_singleton, room,
      List.append_assoc]

/-- The last three digits of a wide numeral are those of its thousandths. -/
theorem padded_add_three {width : Nat} (positive : 0 < width) (number : Nat) :
    padded (width + 3) number = padded width (number / 1000) ++ padded 3 (number % 1000) := by
  have before : number / 10 / 10 / 10 = number / 1000 := by omega
  have group : padded 3 (number % 1000) = [(number / 10 / 10 % 10).digitChar] ++
      [(number / 10 % 10).digitChar] ++ [(number % 10).digitChar] := by
    have hundreds : number % 1000 / 10 / 10 = number / 10 / 10 % 10 := by omega
    have tens : number % 1000 / 10 % 10 = number / 10 % 10 := by omega
    have ones : number % 1000 % 10 = number % 10 := by omega
    rw [padded_succ (by decide), padded_succ (by decide), hundreds, padded_one (by omega), tens,
      ones]
  rw [padded_succ (by omega), padded_succ (by omega), padded_succ positive, before, group,
    List.append_assoc, List.append_assoc, List.append_assoc]

/-- The digit of the highest place of a number. -/
def leadingDigit (number : Nat) : Nat :=
  if number < 10 then number else leadingDigit (number / 10)

theorem leadingDigit_of_lt {number : Nat} (single : number < 10) :
    leadingDigit number = number := by
  rw [leadingDigit, if_pos single]

theorem leadingDigit_le (number : Nat) : leadingDigit number ≤ 9 := by
  induction number using leadingDigit.induct with
  | case1 number single =>
      rw [leadingDigit_of_lt single]
      omega
  | case2 number several inductionHypothesis =>
      rw [leadingDigit, if_neg several]
      exact inductionHypothesis

theorem digitValue_digitChar {digit : Nat} (single : digit < 10) :
    digitValue digit.digitChar = digit := by
  rw [digitValue, Nat.toNat_digitChar_of_lt_ten single]
  exact Nat.add_sub_cancel_left 48 digit

/-- A numeral starts with the leading digit of its number. -/
theorem head?_digits (number : Nat) :
    (digits number).head?.map digitValue = some (leadingDigit number) := by
  induction number using leadingDigit.induct with
  | case1 number single =>
      rw [digits_of_lt single, leadingDigit_of_lt single, List.head?_cons, Option.map_some,
        digitValue_digitChar single]
  | case2 number several inductionHypothesis =>
      obtain ⟨first, rest, opening, _⟩ := exists_cons_digits (number / 10)
      rw [leadingDigit, if_neg several, ← inductionHypothesis, digits_concat several, opening]
      rfl

theorem one_lt_length_digits_iff (number : Nat) : 1 < (digits number).length ↔ 10 ≤ number := by
  have single : (digits number).length ≤ 1 ↔ number < 10 :=
    Nat.length_toDigits_le_iff (by decide) (by decide)
  omega

end ImpalaAdapter
