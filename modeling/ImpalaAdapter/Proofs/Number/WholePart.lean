/-
This file gives amounts their exact values, and shows that the whole number of an amount is its
value without the fraction, inside the 64-bit range.
-/

import ImpalaAdapter.Number.Binary64
import Mathlib.Algebra.Order.Field.Power
import Mathlib.Data.Rat.Floor
import Mathlib.Order.WithBot

namespace ImpalaAdapter.Binary64

/-- The magnitude of a finite number. -/
def magnitude (mantissa : Nat) (exponent : Int) : ℚ :=
  mantissa * 2 ^ exponent

/-- The exact value is a rational number or one of the two infinities. -/
def value? : Binary64 → Option (WithBot (WithTop ℚ))
  | .nan => none
  | .infinite negative => some (if negative then ⊥ else ((⊤ : WithTop ℚ) : WithBot (WithTop ℚ)))
  | .finite negative mantissa exponent =>
      some (((if negative then -magnitude mantissa exponent
        else magnitude mantissa exponent : ℚ) : WithTop ℚ) : WithBot (WithTop ℚ))

/-- A value is truncated towards zero. -/
def truncated (value : ℚ) : ℤ :=
  if value < 0 then ⌈value⌉ else ⌊value⌋

/-- A number outside the 64-bit range goes to its nearer end. -/
def clamped (whole : ℤ) : ℤ :=
  max leastWhole (min whole greatestWhole)

/-- The whole number of a value. The infinities are beyond the ends of the range. -/
def wholeOf (value : WithBot (WithTop ℚ)) : ℤ :=
  (value.map fun above =>
    (above.map fun exact => clamped (truncated exact)).untopD greatestWhole).unbotD leastWhole

/-- The whole number of an amount is the one of its exact value, and zero when it has none. -/
def exactWhole (amount : Binary64) : ℤ :=
  amount.value?.elim 0 wholeOf

/-- Amounts are compared by their exact values, so a value that is no number is never compared. -/
def AtMost (first second : Binary64) : Prop :=
  ∃ lower upper, first.value? = some lower ∧ second.value? = some upper ∧ lower ≤ upper

variable {mantissa : Nat} {exponent : Int} {value : ℚ}

theorem magnitude_nonneg : 0 ≤ magnitude mantissa exponent := by
  unfold magnitude
  positivity

/-- The whole part of a magnitude is its floor. -/
theorem floor_magnitude : ⌊magnitude mantissa exponent⌋ = wholePart mantissa exponent := by
  unfold magnitude wholePart
  by_cases large : 0 ≤ exponent
  · obtain ⟨power, rfl⟩ := Int.eq_ofNat_of_zero_le large
    have exact : (mantissa : ℚ) * 2 ^ (power : Int) = (mantissa * Nat.pow 2 power : Nat) := by
      rw [zpow_natCast, Nat.cast_mul, Nat.pow_eq, Nat.cast_pow, Nat.cast_ofNat]
    rw [if_pos large, exact, Int.floor_natCast, Int.toNat_natCast]
  · obtain ⟨power, opposite⟩ := Int.eq_ofNat_of_zero_le (show 0 ≤ -exponent by omega)
    have exact : (mantissa : ℚ) * 2 ^ exponent = mantissa / (Nat.pow 2 power : Nat) := by
      rw [← Int.neg_neg exponent, opposite, zpow_neg, zpow_natCast, Nat.pow_eq, Nat.cast_pow,
        Nat.cast_ofNat, div_eq_mul_inv]
    rw [if_neg large, exact, Rat.floor_natCast_div_natCast, opposite, Int.toNat_natCast,
      Int.natCast_ediv]

theorem truncated_of_nonneg (nonnegative : 0 ≤ value) : truncated value = ⌊value⌋ :=
  if_neg (not_lt.mpr nonnegative)

/-- Truncation treats the two signs alike. -/
theorem truncated_neg (nonnegative : 0 ≤ value) : truncated (-value) = -⌊value⌋ := by
  unfold truncated
  split
  case isTrue negative => exact Int.ceil_neg
  case isFalse notNegative =>
    have zero : value = 0 := by linarith
    rw [zero]
    simp

theorem truncated_mono {lower upper : ℚ} (below : lower ≤ upper) :
    truncated lower ≤ truncated upper := by
  unfold truncated
  split
  case isTrue lowerNegative =>
    split
    case isTrue => exact Int.ceil_mono below
    case isFalse upperNonnegative =>
      have ceiling : ⌈lower⌉ ≤ 0 := Int.ceil_le.mpr (by simpa using lowerNegative.le)
      have floor : 0 ≤ ⌊upper⌋ := Int.floor_nonneg.mpr (not_lt.mp upperNonnegative)
      exact ceiling.trans floor
  case isFalse lowerNonnegative =>
    have upperNonnegative : ¬ upper < 0 := by
      intro negative
      exact lowerNonnegative (below.trans_lt negative)
    rw [if_neg upperNonnegative]
    exact Int.floor_mono below

theorem clamped_mono {lower upper : ℤ} (below : lower ≤ upper) :
    clamped lower ≤ clamped upper := by
  unfold clamped
  omega

theorem clamped_range (whole : ℤ) : leastWhole ≤ clamped whole ∧ clamped whole ≤ greatestWhole := by
  unfold clamped leastWhole greatestWhole
  omega

/-- Every whole number is inside the 64-bit range. -/
theorem wholeOf_range (value : WithBot (WithTop ℚ)) :
    leastWhole ≤ wholeOf value ∧ wholeOf value ≤ greatestWhole := by
  have ends : leastWhole ≤ greatestWhole := by decide
  cases value with
  | bot => exact ⟨le_refl _, ends⟩
  | coe above =>
      cases above with
      | top => exact ⟨ends, le_refl _⟩
      | coe exact => exact clamped_range _

/-- Greater values have no smaller whole numbers. -/
theorem wholeOf_mono {lower upper : WithBot (WithTop ℚ)} (below : lower ≤ upper) :
    wholeOf lower ≤ wholeOf upper := by
  cases lower with
  | bot => exact (wholeOf_range upper).1
  | coe lower =>
      cases upper with
      | bot => exact absurd below (WithBot.not_coe_le_bot lower)
      | coe upper =>
          have aboveBelow : lower ≤ upper := WithBot.coe_le_coe.mp below
          cases upper with
          | top => exact (wholeOf_range _).2
          | coe upper =>
              cases lower with
              | top => exact absurd aboveBelow (WithTop.not_top_le_coe upper)
              | coe lower => exact clamped_mono (truncated_mono (WithTop.coe_le_coe.mp aboveBelow))

theorem AtMost.exactWhole_le {first second : Binary64} (ordered : first.AtMost second) :
    first.exactWhole ≤ second.exactWhole := by
  obtain ⟨lower, upper, firstValue, secondValue, below⟩ := ordered
  rw [exactWhole, exactWhole, firstValue, secondValue]
  exact wholeOf_mono below

/-- The shifts of the mantissa give the whole number of the exact value. -/
theorem toWhole_eq_exactWhole (amount : Binary64) : amount.toWhole = amount.exactWhole := by
  have ends : leastWhole ≤ 0 ∧ 0 ≤ greatestWhole := by decide
  cases amount with
  | nan => rfl
  | infinite negative => cases negative <;> rfl
  | finite negative mantissa exponent =>
      cases negative with
      | false =>
          show min (wholePart mantissa exponent : Int) greatestWhole =
            clamped (truncated (magnitude mantissa exponent))
          rw [truncated_of_nonneg magnitude_nonneg, floor_magnitude, clamped]
          omega
      | true =>
          show max (-(wholePart mantissa exponent : Int)) leastWhole =
            clamped (truncated (-magnitude mantissa exponent))
          rw [truncated_neg magnitude_nonneg, floor_magnitude, clamped]
          omega

end ImpalaAdapter.Binary64
