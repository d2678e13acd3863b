import Inspection.Decimal.Reader
import Inspection.Proofs.Decimal.Nearest
import Inspection.Proofs.Double.Order

/-!
# Integers within the range of doubles

Numbers are nearest to infinity from the middle between the greatest double and the power of two
above it (`bitsOf_eq_infinity_iff`). So an integer has a double just if it lies below that
(`floatOfInt?_eq_none_iff`), and the double is finite (`isFinite_of_floatOfInt?`).
-/

namespace Inspection

open Double

namespace Double

variable {q x : ℚ}

/-- What is less than a half below a whole number at the least is nearest to a smaller one. -/
lemma nearest_lt {m : ℕ} (some : 0 < m) (less : x < m - 1 / 2) : nearest x < m := by
  have floor : ⌊x⌋₊ < m := (Nat.floor_lt' some.ne').2 (by linarith)
  rcases Nat.lt_or_eq_of_le (Nat.succ_le_of_lt floor) with further | next
  · exact (nearest_bounds x).2.trans_lt further
  · have rest : x - ⌊x⌋₊ < 1 / 2 := by
      rw [← next] at less
      push_cast at less
      linarith
    rw [nearest, if_pos rest]
    exact floor

/-- The middle between two whole numbers the first of which is odd is nearest to the second one. -/
lemma nearest_half {m : ℕ} (odd : m % 2 = 1) : nearest (m + 1 / 2) = m + 1 := by
  have floor : ⌊(m + 1 / 2 : ℚ)⌋₊ = m :=
    (Nat.floor_eq_iff (by positivity)).2 ⟨by linarith, by linarith⟩
  rw [nearest, floor, add_sub_cancel_left, if_neg (lt_irrefl _), if_pos rfl, odd]

/-- The middle between the greatest double and the power of two above it. -/
lemma middle_eq : (2 ^ 1024 - 2 ^ 970 : ℚ) = (2 ^ 53 - 1 / 2) * 2 ^ (971 : ℤ) := by
  have high : (2 : ℚ) ^ 1024 = 2 ^ 54 * 2 ^ 970 := by rw [← pow_add]
  have low : (2 : ℚ) ^ (971 : ℤ) = 2 * 2 ^ 970 := by
    rw [← pow_succ']
    exact zpow_natCast 2 971
  rw [high, low]
  generalize (2 : ℚ) ^ 970 = t
  ring

/-- A number below the middle between the greatest double and the power of two above it is nearest
to a finite double. -/
lemma bitsOf_lt_of_lt (positive : 0 < q) (less : q < 2 ^ 1024 - 2 ^ 970) :
    bitsOf q < 2047 * 2 ^ 52 := by
  have log : Int.log 2 q < 1024 := by
    refine (Int.lt_zpow_iff_log_lt Nat.one_lt_two positive).1 (less.trans ?_)
    exact (sub_lt_self _ (by positivity)).trans_eq (zpow_natCast 2 1024).symm
  have place : quantum q ≤ 971 := by
    rw [quantum]
    omega
  rw [bitsOf]
  rcases place.lt_or_eq with further | last
  · have few : nearest (q / 2 ^ quantum q) ≤ 2 ^ 53 := by
      refine nearest_le (div_nonneg positive.le (zpow_nonneg (by norm_num) _)) ?_
      exact_mod_cast div_quantum_lt positive
    omega
  · have few : nearest (q / 2 ^ (971 : ℤ)) < 2 ^ 53 := by
      refine nearest_lt (by norm_num) ?_
      rw [div_lt_iff₀ (zpow_pos (by norm_num) _)]
      rw [middle_eq] at less
      exact_mod_cast less
    rw [last]
    omega

/-- Numbers are nearest to infinity from the middle between the greatest double and the power of two
above it. -/
theorem bitsOf_eq_infinity_iff (positive : 0 < q) :
    bitsOf q = 2047 * 2 ^ 52 ↔ 2 ^ 1024 - 2 ^ 970 ≤ q := by
  constructor
  · intro infinite
    by_contra less
    exact (bitsOf_lt_of_lt positive (not_le.1 less)).ne infinite
  · intro reached
    refine le_antisymm (min_le_right _ _) ?_
    have own : bitsOf ((2 ^ 53 - 1 / 2) * 2 ^ (971 : ℤ)) = 2047 * 2 ^ 52 := by
      have scale : ((2 ^ 53 - 1 / 2) * 2 ^ (971 : ℤ) : ℚ) / 2 ^ (971 : ℤ) =
          (2 ^ 53 - 1 : ℕ) + 1 / 2 := by
        rw [mul_div_cancel_right₀ _ (zpow_ne_zero _ (by norm_num))]
        norm_num
      have place : quantum ((2 ^ 53 - 1 / 2) * 2 ^ (971 : ℤ)) = 971 := by
        refine quantum_eq (by norm_num) (.inl ?_) (by positivity) ?_
        · rw [scale]
          norm_num
        · rw [scale]
          norm_num
      rw [bitsOf, place, scale, nearest_half (by norm_num)]
      rfl
    rw [middle_eq] at reached
    exact own.ge.trans (bitsOf_mono (by positivity) reached)

end Double

namespace Decimal

variable {d : Decimal} {n : ℤ} {x : Float}

/-- A number that is not negative is read with no more bits than infinity. -/
lemma toNat_toFloat_le (nonneg : 0 ≤ d.mantissa) :
    d.toFloat.toBits.toNat ≤ 2047 * 2 ^ 52 := by
  rcases nonneg.eq_or_lt with zero | positive
  · rw [toNat_toFloat_zero zero.symm]
    exact Nat.zero_le _
  · rw [toNat_toFloat positive, bitsOf]
    exact min_le_right _ _

/-- An integer is read as its magnitude is, with its sign. -/
lemma toFloat_integer (n : ℤ) :
    toFloat ⟨n, 0⟩ = if n < 0 then -toFloat ⟨n.natAbs, 0⟩ else toFloat ⟨n.natAbs, 0⟩ := by
  rw [toFloat_of_nonneg (d := ⟨n.natAbs, 0⟩) (Int.natCast_nonneg _), toFloat]
  rfl

/-- An integer is read as infinity from the middle between the greatest double and the power of two
above it. -/
lemma isInf_toFloat_integer (n : ℤ) :
    (toFloat ⟨n, 0⟩).isInf ↔ 2 ^ 1024 - 2 ^ 970 ≤ |n| := by
  have magnitude : (toFloat ⟨n.natAbs, 0⟩).isInf ↔ 2 ^ 1024 - 2 ^ 970 ≤ |n| := by
    have small : (2 : ℤ) ^ 970 < 2 ^ 1024 := pow_lt_pow_right₀ (by norm_num) (by norm_num)
    rw [Binary.isInf_iff_bits (toNat_toFloat_le (Int.natCast_nonneg _)), Int.natCast_natAbs]
    rcases (abs_nonneg n).eq_or_lt with zero | some
    · rw [toNat_toFloat_zero zero.symm, ← zero]
      exact iff_of_false (by norm_num) (not_le.2 (sub_pos.2 small))
    · rw [toNat_toFloat some, value, zpow_zero, mul_one,
        bitsOf_eq_infinity_iff (Int.cast_pos.2 some)]
      exact_mod_cast Iff.rfl
  rw [toFloat_integer, ← magnitude]
  split
  case isTrue => rw [Binary.isInf_neg]
  case isFalse => rfl

/-- An integer has no double from the middle between the greatest one and the power of two above
it. -/
theorem floatOfInt?_eq_none_iff : floatOfInt? n = none ↔ 2 ^ 1024 - 2 ^ 970 ≤ |n| := by
  rw [← isInf_toFloat_integer, floatOfInt?]
  split
  case isTrue infinite => exact iff_of_true rfl infinite
  case isFalse bounded => exact iff_of_false nofun bounded

/-- The double of an integer is finite. -/
lemma isFinite_of_floatOfInt? (found : floatOfInt? n = some x) : x.isFinite := by
  rw [floatOfInt?] at found
  split at found
  case isTrue => cases found
  case isFalse bounded =>
    cases found
    have rounded := toNat_toFloat_le (d := ⟨n.natAbs, 0⟩) (Int.natCast_nonneg _)
    have magnitude : ¬(toFloat ⟨n.natAbs, 0⟩).isInf → (toFloat ⟨n.natAbs, 0⟩).isFinite := by
      rw [Binary.isInf_iff_bits rounded, Binary.isFinite_iff_bits rounded]
      exact rounded.lt_of_ne
    rw [toFloat_integer] at bounded ⊢
    split
    case isTrue negative =>
      rw [if_pos negative, Binary.isInf_neg] at bounded
      rw [Binary.isFinite_neg]
      exact magnitude bounded
    case isFalse nonneg =>
      rw [if_neg nonneg] at bounded
      exact magnitude bounded

end Decimal

end Inspection
