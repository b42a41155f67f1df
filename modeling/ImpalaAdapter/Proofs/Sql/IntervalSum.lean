/-
This file shows which texts name a unit, and that an interval brings only a keyword and a whole
number into the SQL of the sum.
-/

import ImpalaAdapter.Sql.Dialect
import ImpalaAdapter.Proofs.Number.Numeral
import ImpalaAdapter.Proofs.Number.WholePart
import ImpalaAdapter.Proofs.Sql.Spelling

namespace ImpalaAdapter

namespace Temporal

namespace IntervalUnit

variable {word : List Char} {unit : IntervalUnit}

/-- A unit is found by its own keyword and by no other word. -/
theorem ofKeyword?_eq_some_iff {keyword : String} :
    ofKeyword? keyword = some unit ↔ keyword = unit.keyword := by
  constructor
  · intro found
    have matched := List.find?_some found
    exact (eq_of_beq matched).symm
  · intro same
    rw [same]
    cases unit <;> decide

/-- No keyword looks like a plural. -/
theorem getLast?_keyword (unit : IntervalUnit) : unit.keyword.toList.getLast? ≠ some 's' := by
  cases unit <;> decide

/-- A keyword is the singular of itself and of its plural. -/
theorem singular_eq_keyword_iff :
    singular word = unit.keyword.toList ↔
      word = unit.keyword.toList ∨ word = unit.keyword.toList ++ ['s'] := by
  unfold singular
  split
  case isTrue ending =>
    constructor
    · intro same
      right
      rw [← same]
      exact (List.dropLast_append_getLast? 's' ending).symm
    · intro spelled
      rcases spelled with same | plural
      · rw [same] at ending
        exact absurd ending (getLast?_keyword unit)
      · rw [plural, List.dropLast_concat]
  case isFalse noEnding =>
    constructor
    · intro same
      exact .inl same
    · intro spelled
      rcases spelled with same | plural
      · exact same
      · rw [plural, List.getLast?_concat] at noEnding
        exact absurd rfl noEnding

theorem ofText?_eq_some_iff {text : String} :
    ofText? text = some unit ↔
      Text.lowercase (Text.trim text.toList) = unit.keyword.toList ∨
        Text.lowercase (Text.trim text.toList) = unit.keyword.toList ++ ['s'] := by
  rw [ofText?, ofKeyword?_eq_some_iff, ← singular_eq_keyword_iff, ← String.toList_inj,
    String.toList_ofList]

/-- The letters of a keyword are ASCII letters. -/
theorem uppercase_keyword (unit : IntervalUnit) :
    String.ofList (Text.uppercase unit.keyword.toList) = unit.keyword.toUpper := by
  have capitals : Text.uppercase unit.keyword.toList = unit.keyword.toList.map Char.toUpper := by
    cases unit <;> decide
  rw [capitals, ← String.toList_inj, String.toList_ofList, String.toUpper, String.toList_map]

end IntervalUnit

theorem wholeAmount_eq (amount : Binary64) : wholeAmount amount = toString amount.exactWhole := by
  rw [wholeAmount, Binary64.toWhole_eq_exactWhole, ← toList_toString_int, String.ofList_toList]

end Temporal

namespace Sql

open Temporal

namespace Flavor

variable (flavor : Flavor) (operand : Expression) (amount : Binary64) (unit : IntervalUnit)

theorem sql_impala_intervalSum :
    (impala.intervalSum operand amount unit).sql flavor =
      "date_add(" ++ operand.sql flavor ++ ", INTERVAL " ++ toString amount.exactWhole ++ " " ++
        unit.keyword ++ ")" := by
  have name : "date_add(" = "date_add" ++ "(" := rfl
  have opening : ", INTERVAL " = ", " ++ "INTERVAL " := rfl
  rw [intervalSum, Expression.sql_call_pair, Expression.sql_verbatim, bareInterval,
    wholeAmount_eq, name, opening]
  simp only [String.append_assoc]

theorem sql_generic_intervalSum :
    (generic.intervalSum operand amount unit).sql flavor =
      operand.sql flavor ++ " + INTERVAL \x27" ++ toString amount.exactWhole ++ "\x27 " ++
        unit.keyword.toUpper := by
  have opening : " + INTERVAL \x27" = " + " ++ "INTERVAL \x27" := rfl
  rw [intervalSum, Expression.sql_plus, Expression.sql_verbatim, quotedInterval,
    wholeAmount_eq, IntervalUnit.uppercase_keyword, opening]
  simp only [String.append_assoc]

end Flavor

/-- A text names a unit when it is a keyword or its plural, in any case and with blanks around it.
The keyword and a whole number are all that an interval brings into the SQL of a sum, which holds
the SQL of the operand as it is. A greater amount has no smaller number. -/
theorem sql_intervalSum :
    (∀ (text : String) (unit : IntervalUnit),
      IntervalUnit.ofText? text = some unit ↔
        Text.lowercase (Text.trim text.toList) = unit.keyword.toList ∨
          Text.lowercase (Text.trim text.toList) = unit.keyword.toList ++ ['s']) ∧
    (∀ (flavor : Flavor) (operand : Expression) (amount : Binary64) (unit : IntervalUnit),
      (Flavor.impala.intervalSum operand amount unit).sql flavor =
          "date_add(" ++ operand.sql flavor ++ ", INTERVAL " ++ toString amount.exactWhole ++ " " ++
            unit.keyword ++ ")" ∧
        (Flavor.generic.intervalSum operand amount unit).sql flavor =
          operand.sql flavor ++ " + INTERVAL \x27" ++ toString amount.exactWhole ++ "\x27 " ++
            unit.keyword.toUpper) ∧
    ∀ first second : Binary64, first.AtMost second → first.exactWhole ≤ second.exactWhole := by
  refine ⟨?_, ?_, ?_⟩
  · intro text unit
    exact IntervalUnit.ofText?_eq_some_iff
  · intro flavor operand amount unit
    constructor
    · exact Flavor.sql_impala_intervalSum flavor operand amount unit
    · exact Flavor.sql_generic_intervalSum flavor operand amount unit
  · intro first second ordered
    exact ordered.exactWhole_le

/-- The Kelvin sign is a capital `k`. An amount loses its fraction, and an infinite one stops at the
greatest number. -/
theorem sql_intervalSum_kelvin :
    IntervalUnit.ofText? "\tWEE\u212AS " = some .week ∧
      (Flavor.impala.intervalSum (.column none "at") (.finite true 5 (-1)) .week).sql .impala =
        "date_add(`at`, INTERVAL -2 week)" ∧
      (Flavor.generic.intervalSum (.column none "at") (.infinite false) .week).sql .generic =
        "\"at\" + INTERVAL \x279223372036854775807\x27 WEEK" ∧
      (Binary64.finite true 5 (-1)).exactWhole ≤ (Binary64.infinite false).exactWhole := by
  have units := sql_intervalSum.1 "\tWEE\u212AS " .week
  have sums := sql_intervalSum.2.1
  have order := sql_intervalSum.2.2 (.finite true 5 (-1)) (.infinite false)
  refine ⟨units.mpr (.inr (by decide)), ?_, ?_, order ?_⟩
  · rw [(sums .impala (.column none "at") (.finite true 5 (-1)) .week).1,
      ← Binary64.toWhole_eq_exactWhole]
    decide
  · rw [(sums .generic (.column none "at") (.infinite false) .week).2,
      ← Binary64.toWhole_eq_exactWhole, ← IntervalUnit.uppercase_keyword]
    decide
  · exact ⟨_, _, rfl, rfl, WithBot.coe_le_coe.mpr le_top⟩

end Sql

end ImpalaAdapter
