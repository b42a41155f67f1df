/-
This file shows that the reader finds the end of each column, string, number and operator.
-/

import ImpalaAdapter.Proofs.Number.Numeral
import ImpalaAdapter.Proofs.Sql.Reader
import Mathlib.Data.List.Basic

namespace ImpalaAdapter.Sql

/-- An operand ends before a space, a comma or a closing parenthesis. -/
def EndsOperand (rest : List Char) : Prop :=
  ∀ character ∈ rest.head?, character ∈ [' ', ',', ')']

/-- An expression ends where an operand ends and no operator follows. -/
def EndsExpression (flavor : Flavor) (rest : List Char) : Prop :=
  EndsOperand rest ∧ Reader.operator flavor rest = none

theorem EndsOperand.stopsRun {rest : List Char} (ends : EndsOperand rest)
    {belongs : Char → Bool} (outside : [' ', ',', ')'].any belongs = false) :
    Text.StopsRun belongs rest := by
  intro character member
  have outsideAll := List.any_eq_false.mp outside character (ends character member)
  exact eq_false_of_ne_true outsideAll

theorem endsExpression_nil (flavor : Flavor) : EndsExpression flavor [] :=
  ⟨by simp [EndsOperand], by cases flavor <;> rfl⟩

theorem endsExpression_cons (flavor : Flavor) {character : Char} (rest : List Char)
    (ends : character = ')' ∨ character = ',') : EndsExpression flavor (character :: rest) := by
  rcases ends with rfl | rfl
  · exact ⟨by simp [EndsOperand], by cases flavor <;> rfl⟩
  · exact ⟨by simp [EndsOperand], by cases flavor <;> rfl⟩

/-- The keywords inside casts and extractions are no operators. -/
theorem endsExpression_keyword (flavor : Flavor) {keyword : String} (rest : List Char)
    (ends : keyword = " AS TIMESTAMP)" ∨ keyword = " FROM ") :
    EndsExpression flavor (keyword.toList ++ rest) := by
  rcases ends with rfl | rfl
  · exact ⟨by simp [EndsOperand], by cases flavor <;> rfl⟩
  · exact ⟨by simp [EndsOperand], by cases flavor <;> rfl⟩

namespace Reader

theorem isPrefixOf?_eq_none {first : Char} {text : List Char} (more : List Char)
    (stops : Text.StopsRun (· == first) text) : (first :: more).isPrefixOf? text = none := by
  cases text with
  | nil => rfl
  | cons next text =>
      have different : next ≠ first := by simpa using stops
      simp [List.isPrefixOf?, Ne.symm different]

@[simp] theorem skip_append (expected : String) (rest : List Char) :
    skip expected (expected.toList ++ rest) = some rest := by
  simp [skip]

theorem skip_closing (rest : List Char) : skip ")" (')' :: rest) = some rest :=
  skip_append ")" rest

theorem number_digits (value : Nat) {rest : List Char} (stops : Text.StopsRun isDigit rest) :
    number (digits value ++ rest) = some (value, rest) := by
  have inside := isDigit_of_mem_digits value
  simp [number, Text.takeWhile_run inside stops, Text.dropWhile_run inside stops]

/-- A whole number reads back with its sign. -/
theorem integer_signedDigits (value : Int) {rest : List Char}
    (stops : Text.StopsRun isDigit rest) :
    integer (signedDigits value ++ rest) = some (value, rest) := by
  by_cases negative : value < 0
  · have sign : signedDigits value ++ rest = "-".toList ++ (digits value.natAbs ++ rest) := by
      simp [signedDigits, negative]
    have restored : -(value.natAbs : Int) = value := by omega
    rw [sign, integer, skip_append]
    simp only [number_digits _ stops, Option.map_some, restored]
  · have unsigned : signedDigits value = digits value.natAbs := by
      simp [signedDigits, negative]
    have noSign : skip "-" (digits value.natAbs ++ rest) = none := by
      obtain ⟨first, more, opening, digit⟩ := exists_cons_digits value.natAbs
      have different : first ≠ '-' := by
        rintro rfl
        exact absurd digit (by decide)
      show ['-'].isPrefixOf? _ = none
      exact isPrefixOf?_eq_none _ (by simpa [opening] using different)
    have restored : (value.natAbs : Int) = value := by omega
    rw [unsigned, integer, noSign]
    simp only [number_digits _ stops, Option.map_some, restored]

theorem column_bare (flavor : Flavor) (name : String) {rest : List Char}
    (ends : EndsOperand rest) :
    column flavor (Text.doubled flavor.mark name.toList ++ flavor.mark :: rest) =
      some (.column none name, rest) := by
  have closed : Text.StopsRun (· == flavor.mark) rest :=
    ends.stopsRun (by cases flavor <;> decide)
  have noDot : ['.', flavor.mark].isPrefixOf? rest = none :=
    isPrefixOf?_eq_none _ (ends.stopsRun (by decide))
  simp [column, Text.scanQuoted_doubled _ _ _ closed, noDot]

theorem column_qualified (flavor : Flavor) (table name : String) {rest : List Char}
    (ends : EndsOperand rest) :
    column flavor (Text.doubled flavor.mark table.toList ++ flavor.mark :: '.' :: flavor.mark ::
        Text.doubled flavor.mark name.toList ++ flavor.mark :: rest) =
      some (.column (some table) name, rest) := by
  have closed : Text.StopsRun (· == flavor.mark) rest :=
    ends.stopsRun (by cases flavor <;> decide)
  have dotted (after : List Char) : Text.StopsRun (· == flavor.mark) ('.' :: after) := by
    rw [Text.stopsRun_cons]
    cases flavor <;> decide
  simp [column, Text.scanQuoted_doubled, closed, dotted, List.isPrefixOf?]

theorem string_text (content : String) {rest : List Char} (ends : EndsOperand rest) :
    string (Text.doubled stringQuote content.toList ++ stringQuote :: rest) =
      some (.string content, rest) := by
  have closed : Text.StopsRun (· == stringQuote) rest := ends.stopsRun (by decide)
  simp [string, Text.scanQuoted_doubled _ _ _ closed]

@[simp] theorem operator_operatorText (flavor : Flavor) (operator : BinaryOperator)
    (rest : List Char) :
    Reader.operator flavor (operatorText flavor operator ++ rest) = some (operator, rest) := by
  cases flavor <;> cases operator <;> rfl

end Reader

end ImpalaAdapter.Sql
