/-
This file shows that the texts of times of day are ordered as the times, although fractions have
different widths.
-/

import ImpalaAdapter.Proofs.Number.NumeralOrder
import ImpalaAdapter.Proofs.Temporal.ClockRotation
import ImpalaAdapter.Proofs.Temporal.LiteralReading

namespace ImpalaAdapter.Temporal

open Sql Text

namespace TimeOfDay

/-- Each group of three digits counts a thousand times as much as the next one. The groups end when
nothing is left. -/
def fractionGroups : Nat → Nat → List Char
  | 0, _ => []
  | count + 1, rest =>
      if rest = 0 then []
      else
        padded 3 (rest / Nat.pow 1000 count) ++ fractionGroups count (rest % Nat.pow 1000 count)

@[simp] theorem fractionGroups_zero (count : Nat) : fractionGroups count 0 = [] := by
  cases count with
  | zero => rfl
  | succ count => rw [fractionGroups, if_pos rfl]

theorem fractionGroups_succ {rest : Nat} (more : rest ≠ 0) (count : Nat) :
    fractionGroups (count + 1) rest =
      padded 3 (rest / Nat.pow 1000 count) ++ fractionGroups count (rest % Nat.pow 1000 count) :=
  if_neg more

/-- Groups are ordered as the numbers that they count: where one text ends, the other one has more
to count. -/
theorem compareBytes_fractionGroups {count first second : Nat}
    (firstFits : first < Nat.pow 1000 count) (secondFits : second < Nat.pow 1000 count) :
    compareBytes (fractionGroups count first) (fractionGroups count second) =
      Ord.compare first second := by
  induction count generalizing first second with
  | zero =>
      have unit : Nat.pow 1000 0 = 1 := rfl
      have same : first = second := by omega
      rw [same, Nat.compare_eq_eq.mpr rfl]
      rfl
  | succ count inductionHypothesis =>
      have positive : 0 < Nat.pow 1000 count := Nat.pow_pos (by decide)
      unfold fractionGroups
      apply compareBytes_unlessZero (opensAscii_padded ..) (opensAscii_padded ..)
      rw [compareBytes_padded_append (by decide) (Nat.div_lt_of_lt_mul firstFits)
          (Nat.div_lt_of_lt_mul secondFits),
        inductionHypothesis (Nat.mod_lt _ positive) (Nat.mod_lt _ positive),
        ← compare_eq_then_mod positive]

/-- A fraction is a point and as many groups as it needs. -/
theorem fractionText_eq (nanosecond : Nat) :
    fractionText nanosecond =
      if nanosecond = 0 then [] else '.' :: fractionGroups 3 nanosecond := by
  have thousands : nanosecond / 1000 / 1000 = nanosecond / 1000000 := by omega
  have middle : nanosecond % 1000000 / 1000 = nanosecond / 1000 % 1000 := by omega
  have last : nanosecond % 1000000 % 1000 = nanosecond % 1000 := by omega
  have six : padded 6 (nanosecond / 1000) =
      padded 3 (nanosecond / 1000000) ++ padded 3 (nanosecond / 1000 % 1000) := by
    rw [padded_add_three (by decide), thousands]
  unfold fractionText
  by_cases zero : nanosecond = 0
  · rw [if_pos zero, if_pos zero]
  · have first : fractionGroups 3 nanosecond =
        padded 3 (nanosecond / 1000000) ++ fractionGroups 2 (nanosecond % 1000000) :=
      fractionGroups_succ zero 2
    rw [if_neg zero, if_neg zero, first]
    by_cases single : nanosecond % 1000000 = 0
    · rw [if_pos single, single, fractionGroups_zero, List.append_nil]
    · have second : fractionGroups 2 (nanosecond % 1000000) =
          padded 3 (nanosecond / 1000 % 1000) ++ fractionGroups 1 (nanosecond % 1000) := by
        rw [← middle, ← last]
        exact fractionGroups_succ single 1
      rw [if_neg single, second, ← List.append_assoc, ← six]
      by_cases double : nanosecond % 1000 = 0
      · rw [if_pos double, double, fractionGroups_zero, List.append_nil]
      · have third : fractionGroups 1 (nanosecond % 1000) = padded 3 (nanosecond % 1000) := by
          rw [fractionGroups_succ double]
          show padded 3 (nanosecond % 1000 / 1) ++ [] = _
          rw [Nat.div_one, List.append_nil]
        rw [if_neg double, third, ← padded_add_three (by decide)]

theorem compareBytes_fractionText {first second : Nat} (firstFits : first < 1000000000)
    (secondFits : second < 1000000000) :
    compareBytes (fractionText first) (fractionText second) = Ord.compare first second := by
  have point (text : List Char) : OpensAscii ('.' :: text) := ⟨'.', text, rfl, by decide⟩
  rw [fractionText_eq, fractionText_eq]
  apply compareBytes_unlessZero (point _) (point _)
  rw [compareBytes_cons_self (by decide), compareBytes_fractionGroups firstFits secondFits]

end TimeOfDay

namespace PlainTime

variable (first second : PlainTime)

theorem chars_eq (time : PlainTime) :
    time.val.chars = padded 2 (time.val.second / 3600) ++
      ':' :: (padded 2 (time.val.second / 60 % 60) ++
        ':' :: (padded 2 (time.val.second % 60) ++ TimeOfDay.fractionText time.val.nanosecond)) := by
  have plain := time.property
  have noLeap : time.val.nanosecond / 1000000000 = 0 := by omega
  have stored : time.val.nanosecond % 1000000000 = time.val.nanosecond := by omega
  simp only [TimeOfDay.chars, noLeap, stored, Nat.add_zero, List.append_assoc, List.cons_append]

/-- The fields of a time have one width each, and the later fields decide when the earlier ones are
the same. -/
theorem compareBytes_chars :
    compareBytes first.val.chars second.val.chars =
      Ord.compare first.val.totalNanoseconds second.val.totalNanoseconds := by
  have firstInside := first.val.second_lt
  have secondInside := second.val.second_lt
  have firstPlain := first.property
  have secondPlain := second.property
  have fields (number other : Nat) (fits : number < 100) (otherFits : other < 100)
      (rest otherRest : List Char) :
      compareBytes (padded 2 number ++ rest) (padded 2 other ++ otherRest) =
        (Ord.compare number other).then (compareBytes rest otherRest) :=
    compareBytes_padded_append (by decide) fits otherFits rest otherRest
  rw [first.chars_eq, second.chars_eq, fields _ _ (by omega) (by omega),
    compareBytes_cons_self (by decide), fields _ _ (by omega) (by omega),
    compareBytes_cons_self (by decide), fields _ _ (by omega) (by omega),
    TimeOfDay.compareBytes_fractionText firstPlain secondPlain]
  apply ordering_ext
  · simp only [Ordering.then_eq_lt, Nat.compare_eq_lt, Nat.compare_eq_eq, Int.compare_eq_lt,
      TimeOfDay.totalNanoseconds]
    omega
  · simp only [Ordering.then_eq_gt, Nat.compare_eq_gt, Nat.compare_eq_eq, Int.compare_eq_gt,
      TimeOfDay.totalNanoseconds]
    omega

end PlainTime

/-- In Impala the literal of a time is a plain string, and two such strings are ordered byte by byte
as the times are on the clock. -/
theorem literal?_time_order (first second : PlainTime) :
    ∃ firstLiteral secondLiteral,
      literal? Flavor.impala.dialect (.time first) = some firstLiteral ∧
        literal? Flavor.impala.dialect (.time second) = some secondLiteral ∧
        ∀ flavor, ∃ firstText secondText : String,
          firstLiteral.sql flavor = quotedString firstText ∧
          secondLiteral.sql flavor = quotedString secondText ∧
          literalText? (firstLiteral.sql flavor) = some firstText.toList ∧
          literalText? (secondLiteral.sql flavor) = some secondText.toList ∧
          compareBytes firstText.toList secondText.toList =
            Ord.compare first.val.totalNanoseconds second.val.totalNanoseconds := by
  refine ⟨.verbatim (quotedString first.val.text), .verbatim (quotedString second.val.text), rfl,
    rfl, ?_⟩
  intro flavor
  have ordered := PlainTime.compareBytes_chars first second
  rw [← String.toList_ofList (l := first.val.chars), ← String.toList_ofList (l := second.val.chars)]
    at ordered
  exact ⟨first.val.text, second.val.text, Expression.sql_verbatim flavor _,
    Expression.sql_verbatim flavor _, literalText?_kindLiteral .impala flavor .time _,
    literalText?_kindLiteral .impala flavor .time _, ordered⟩

/-- The shorter fraction comes first. -/
example : compareBytes "08:05:00.100".toList "08:05:00.100001".toList = .lt := by
  decide

end ImpalaAdapter.Temporal
