/-
This file compares texts byte by byte, and shows that numerals of one width are ordered as the
numbers that they were written for.
-/

import ImpalaAdapter.Proofs.Number.Numeral
import Mathlib.Data.List.Induction

namespace ImpalaAdapter

theorem ordering_ext {first second : Ordering} (before : first = .lt ↔ second = .lt)
    (after : first = .gt ↔ second = .gt) : first = second := by
  cases first with
  | lt => exact (before.mp rfl).symm
  | gt => exact (after.mp rfl).symm
  | eq =>
      cases second with
      | lt => cases before.mpr rfl
      | gt => cases after.mpr rfl
      | eq => rfl

/-- The quotients by a unit decide first, and then the remainders. -/
theorem compare_eq_then_mod {unit : Nat} (positive : 0 < unit) (first second : Nat) :
    Ord.compare first second =
      (Ord.compare (first / unit) (second / unit)).then
        (Ord.compare (first % unit) (second % unit)) := by
  have firstSplit := Nat.div_add_mod first unit
  have secondSplit := Nat.div_add_mod second unit
  have firstBelow := Nat.mod_lt first positive
  have secondBelow := Nat.mod_lt second positive
  rcases Nat.lt_trichotomy (first / unit) (second / unit) with before | same | after
  · have further : unit * (first / unit) + unit ≤ unit * (second / unit) :=
      Nat.mul_le_mul_left unit before
    rw [Nat.compare_eq_lt.mpr before, Ordering.lt_then, Nat.compare_eq_lt]
    omega
  · rw [same] at firstSplit
    rw [same, Nat.compare_eq_eq.mpr rfl, Ordering.eq_then]
    apply ordering_ext
    · rw [Nat.compare_eq_lt, Nat.compare_eq_lt]
      omega
    · rw [Nat.compare_eq_gt, Nat.compare_eq_gt]
      omega
  · have further : unit * (second / unit) + unit ≤ unit * (first / unit) :=
      Nat.mul_le_mul_left unit after
    rw [Nat.compare_eq_gt.mpr after, Ordering.gt_then, Nat.compare_eq_gt]
    omega

namespace Text

/-- The bytes of a text in UTF-8. -/
def bytes (text : List Char) : List UInt8 :=
  text.flatMap String.utf8EncodeChar

/-- The first different byte decides, and a text that ends before it comes first. -/
def compareBytes (first second : List Char) : Ordering :=
  (bytes first).compareLex (fun byte other => Ord.compare byte.toNat other.toNat) (bytes second)

variable {character other : Char}

/-- A character of ASCII is one byte. -/
theorem bytes_cons (ascii : character.toNat < 128) (text : List Char) :
    bytes (character :: text) = character.val.toUInt8 :: bytes text := by
  have single : character.utf8Size = 1 := by
    rw [Char.utf8Size_eq_one_iff, UInt32.le_iff_toNat_le]
    exact Nat.le_of_lt_succ ascii
  rw [bytes, List.flatMap_cons, String.utf8EncodeChar_eq_singleton single, ← bytes,
    List.singleton_append]

theorem toNat_byte (ascii : character.toNat < 128) :
    character.val.toUInt8.toNat = character.toNat := by
  have inByte : character.toNat < 256 := by omega
  rw [UInt32.toNat_toUInt8]
  exact Nat.mod_eq_of_lt inByte

/-- The first characters decide, and then what follows them. -/
theorem compareBytes_cons (ascii : character.toNat < 128) (otherAscii : other.toNat < 128)
    (first second : List Char) :
    compareBytes (character :: first) (other :: second) =
      (Ord.compare character.toNat other.toNat).then (compareBytes first second) := by
  rw [compareBytes, bytes_cons ascii, bytes_cons otherAscii, List.compareLex_cons_cons,
    toNat_byte ascii, toNat_byte otherAscii, ← compareBytes]

theorem compareBytes_cons_self (ascii : character.toNat < 128) (first second : List Char) :
    compareBytes (character :: first) (character :: second) = compareBytes first second := by
  rw [compareBytes_cons ascii ascii, Nat.compare_eq_eq.mpr rfl, Ordering.eq_then]

/-- The text starts with a character of ASCII. -/
def OpensAscii (text : List Char) : Prop :=
  ∃ character rest, text = character :: rest ∧ character.toNat < 128

theorem OpensAscii.compareBytes_nil_left {text : List Char} (opens : OpensAscii text) :
    compareBytes [] text = .lt := by
  obtain ⟨character, rest, rfl, ascii⟩ := opens
  rw [compareBytes, bytes_cons ascii]
  rfl

theorem OpensAscii.compareBytes_nil_right {text : List Char} (opens : OpensAscii text) :
    compareBytes text [] = .gt := by
  obtain ⟨character, rest, rfl, ascii⟩ := opens
  rw [compareBytes, bytes_cons ascii]
  rfl

/-- Texts that are ordered as positive numbers stay so when nothing is written for zero. -/
theorem compareBytes_unlessZero {first second : Nat} {firstText secondText : List Char}
    (firstOpens : OpensAscii firstText) (secondOpens : OpensAscii secondText)
    (ordered : compareBytes firstText secondText = Ord.compare first second) :
    compareBytes (if first = 0 then [] else firstText) (if second = 0 then [] else secondText) =
      Ord.compare first second := by
  by_cases firstZero : first = 0
  · by_cases secondZero : second = 0
    · rw [if_pos firstZero, if_pos secondZero, firstZero, secondZero, Nat.compare_eq_eq.mpr rfl]
      rfl
    · have before : first < second := by omega
      rw [if_pos firstZero, if_neg secondZero, secondOpens.compareBytes_nil_left,
        Nat.compare_eq_lt.mpr before]
  · by_cases secondZero : second = 0
    · have after : second < first := by omega
      rw [if_neg firstZero, if_pos secondZero, firstOpens.compareBytes_nil_right,
        Nat.compare_eq_gt.mpr after]
    · rw [if_neg firstZero, if_neg secondZero, ordered]

end Text

open Text

theorem numeralValue_concat (numeral : List Char) (character : Char) :
    numeralValue (numeral ++ [character]) = numeralValue numeral * 10 + digitValue character := by
  simp [numeralValue, valueInBase]

theorem toNat_eq_of_isDigit {character : Char} (digit : isDigit character) :
    character.toNat = digitValue character + 48 ∧ digitValue character < 10 := by
  obtain ⟨atLeast, atMost⟩ := toNat_of_isDigit digit
  have zero : '0'.toNat = 48 := rfl
  rw [digitValue, zero]
  omega

theorem ascii_of_isDigit {character : Char} (digit : isDigit character) :
    character.toNat < 128 := by
  obtain ⟨_, atMost⟩ := toNat_of_isDigit digit
  omega

theorem opensAscii_padded (width number : Nat) (rest : List Char) :
    OpensAscii (padded width number ++ rest) := by
  obtain ⟨digit, more, opening⟩ := List.exists_cons_of_ne_nil (padded_ne_nil width number)
  have inside := isDigit_of_mem_padded width number digit
  rw [opening] at inside ⊢
  exact ⟨digit, more ++ rest, rfl, ascii_of_isDigit (inside List.mem_cons_self)⟩

/-- The digits before the last one decide first, and then the last one. -/
theorem compare_numeralValue_concat {character other : Char} (digit : isDigit character)
    (otherDigit : isDigit other) (first second : List Char) :
    Ord.compare (numeralValue (first ++ [character])) (numeralValue (second ++ [other])) =
      (Ord.compare (numeralValue first) (numeralValue second)).then
        (Ord.compare character.toNat other.toNat) := by
  obtain ⟨code, single⟩ := toNat_eq_of_isDigit digit
  obtain ⟨otherCode, otherSingle⟩ := toNat_eq_of_isDigit otherDigit
  rw [numeralValue_concat, numeralValue_concat, code, otherCode]
  apply ordering_ext
  · simp only [Ordering.then_eq_lt, Nat.compare_eq_lt, Nat.compare_eq_eq]
    omega
  · simp only [Ordering.then_eq_gt, Nat.compare_eq_gt, Nat.compare_eq_eq]
    omega

/-- Two numerals of one width are ordered as their values, and what follows them decides when the
values are the same. The induction moves their last digits over to what follows. -/
theorem compareBytes_numeral_append {first second : List Char}
    (sameWidth : first.length = second.length) (firstDigits : ∀ character ∈ first, isDigit character)
    (secondDigits : ∀ character ∈ second, isDigit character) (rest otherRest : List Char) :
    compareBytes (first ++ rest) (second ++ otherRest) =
      (Ord.compare (numeralValue first) (numeralValue second)).then
        (compareBytes rest otherRest) := by
  induction first using List.reverseRecOn generalizing second rest otherRest with
  | nil =>
      rw [List.eq_nil_of_length_eq_zero sameWidth.symm]
      rfl
  | append_singleton first character inductionHypothesis =>
      rcases List.eq_nil_or_concat second with rfl | ⟨second, other, rfl⟩
      · simp at sameWidth
      · rw [List.concat_eq_append] at sameWidth secondDigits ⊢
        have shorter : first.length = second.length := by simpa using sameWidth
        have digit := firstDigits character (by simp)
        have otherDigit := secondDigits other (by simp)
        have before := inductionHypothesis shorter
          (fun digit member => firstDigits digit (by simp [member]))
          (fun digit member => secondDigits digit (by simp [member]))
          (character :: rest) (other :: otherRest)
        rw [List.append_assoc, List.append_assoc, List.singleton_append, List.singleton_append,
          before, compareBytes_cons (ascii_of_isDigit digit) (ascii_of_isDigit otherDigit),
          ← Ordering.then_assoc, ← compare_numeralValue_concat digit otherDigit]

/-- Numbers that fit a width are ordered as their numerals of that width. -/
theorem compareBytes_padded_append {width first second : Nat} (positive : 0 < width)
    (firstFits : first < Nat.pow 10 width) (secondFits : second < Nat.pow 10 width)
    (rest otherRest : List Char) :
    compareBytes (padded width first ++ rest) (padded width second ++ otherRest) =
      (Ord.compare first second).then (compareBytes rest otherRest) := by
  have firstWidth := length_padded_of_lt positive firstFits
  have secondWidth := length_padded_of_lt positive secondFits
  rw [compareBytes_numeral_append (firstWidth.trans secondWidth.symm)
    (isDigit_of_mem_padded width first) (isDigit_of_mem_padded width second),
    numeralValue_padded, numeralValue_padded]

end ImpalaAdapter
