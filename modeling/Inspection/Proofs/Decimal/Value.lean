import Inspection.Decimal.Shortest
import Mathlib.Algebra.Order.Field.Power
import Mathlib.Data.Rat.Cast.Order
import Mathlib.Tactic.FieldSimp
import Mathlib.Tactic.Lemma
import Mathlib.Tactic.NormNum
import Mathlib.Tactic.Ring

/-!
# Values of decimals

The number that a decimal stands for. Writing it with fewer digits keeps it (`value_stripZeros`),
and the exact decimal of binary parts has their magnitude (`value_toDecimal`).
-/

namespace Inspection

namespace Binary

/-- The magnitude. -/
def value (b : Binary) : ℚ :=
  b.significand * 2 ^ b.scale

lemma value_eq_zero_iff (b : Binary) : b.value = 0 ↔ b.significand = 0 := by
  rw [value, mul_eq_zero, Nat.cast_eq_zero, or_iff_left (zpow_ne_zero _ (by norm_num))]

/-- The magnitude as a quotient. -/
lemma value_eq (b : Binary) : b.value = b.numerator / b.denominator := by
  rw [value, numerator, denominator]
  rcases le_total 0 b.scale with whole | fraction
  · rw [Int.toNat_of_nonpos (neg_nonpos.2 whole), pow_zero, Nat.cast_one, div_one, Nat.cast_mul,
      Nat.cast_pow, Nat.cast_ofNat, ← zpow_natCast, Int.toNat_of_nonneg whole]
  · rw [Int.toNat_of_nonpos fraction, pow_zero, mul_one, Nat.cast_pow, Nat.cast_ofNat,
      ← zpow_natCast, Int.toNat_of_nonneg (neg_nonneg.2 fraction), zpow_neg, div_inv_eq_mul]

end Binary

namespace Decimal

/-- The number that is written. -/
def value (d : Decimal) : ℚ :=
  d.mantissa * 10 ^ d.exponent

lemma value_eq_zero_iff (d : Decimal) : d.value = 0 ↔ d.mantissa = 0 := by
  rw [value, mul_eq_zero, Int.cast_eq_zero, or_iff_left (zpow_ne_zero _ (by norm_num))]

/-- Zeros at the end of the mantissa can be counted in the exponent. -/
lemma value_zeros (m : ℤ) (k : ℕ) (e : ℤ) : value ⟨m * 10 ^ k, e⟩ = value ⟨m, e + k⟩ := by
  rw [value, value, zpow_add₀ (by norm_num), zpow_natCast, Int.cast_mul, Int.cast_pow,
    Int.cast_ofNat]
  ring

/-- Zeros are moved into the exponent without a change of the number. -/
lemma value_stripZeros (fuel m : ℕ) (e : ℤ) : (stripZeros fuel m e).value = value ⟨m, e⟩ := by
  induction fuel generalizing m e with
  | zero => rfl
  | succ fuel ih =>
    rw [stripZeros]
    split
    case isTrue zero =>
      have digits : (m : ℤ) = (m / 10 : ℕ) * 10 ^ 1 := by omega
      rw [ih, digits, value_zeros]
      rfl
    case isFalse => rfl

lemma stripZeros_nonneg (fuel m : ℕ) (e : ℤ) : 0 ≤ (stripZeros fuel m e).mantissa := by
  induction fuel generalizing m e with
  | zero => exact Int.natCast_nonneg m
  | succ fuel ih =>
    rw [stripZeros]
    split
    case isTrue => exact ih _ _
    case isFalse => exact Int.natCast_nonneg m

end Decimal

/-- The exact decimal of binary parts has their magnitude. -/
lemma Binary.value_toDecimal (b : Binary) : b.toDecimal.value = b.value := by
  have five : ((5 : ℚ) ^ (-b.scale).toNat) ≠ 0 := pow_ne_zero _ (by norm_num)
  have ten : (10 : ℚ) ^ (-b.scale).toNat = 5 ^ (-b.scale).toNat * 2 ^ (-b.scale).toNat := by
    rw [← mul_pow]
    norm_num
  rw [value_eq, numerator, denominator, toDecimal, Decimal.value, zpow_neg, zpow_natCast, ten]
  push_cast
  field_simp

end Inspection
