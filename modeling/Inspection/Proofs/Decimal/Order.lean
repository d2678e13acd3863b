import Inspection.Proofs.Decimal.Value
import Mathlib.Data.Nat.Digits.Defs
import Mathlib.Tactic.Linarith
import Mathlib.Tactic.Positivity

/-!
# Order and rounding of decimals

Decimals are ordered, added and negated as the numbers that they write (`le_iff_value`, `value_add`,
`value_neg`). Rounding to some significant digits does not pass a number with no more of them
(`limit_le`, `le_limit`), so it keeps such a number (`value_limit`).
-/

namespace Inspection.Decimal

-- powers of whole numbers are those of the core library, as in the definitions
attribute [local instance (high)] instPowNat

/-! ## Arithmetic -/

/-- The mantissa on the grid of a lower exponent writes the same number. -/
lemma value_mantissaAt (d : Decimal) {e : ℤ} (le : e ≤ d.exponent) :
    (d.mantissaAt e : ℚ) * 10 ^ e = d.value := by
  have shift : ((d.exponent - e).toNat : ℤ) = d.exponent - e := Int.toNat_of_nonneg (by omega)
  rw [mantissaAt, value, Int.cast_mul, Int.cast_pow, Int.cast_ofNat, ← zpow_natCast, shift,
    mul_assoc, ← zpow_add₀ (by norm_num), sub_add_cancel]

/-- Decimals are ordered as the numbers that they write. -/
lemma le_iff_value {a b : Decimal} : a ≤ b ↔ a.value ≤ b.value := by
  have scale : (0 : ℚ) < 10 ^ commonExponent a b := zpow_pos (by norm_num) _
  have first := a.value_mantissaAt (e := commonExponent a b) (min_le_left _ _)
  have second := b.value_mantissaAt (e := commonExponent a b) (min_le_right _ _)
  rw [← first, ← second, mul_le_mul_iff_left₀ scale, Int.cast_le]
  exact decide_eq_true_iff

/-- The sum of decimals writes the sum. -/
@[simp] lemma value_add (a b : Decimal) : (a + b).value = a.value + b.value := by
  have first := a.value_mantissaAt (e := commonExponent a b) (min_le_left _ _)
  have second := b.value_mantissaAt (e := commonExponent a b) (min_le_right _ _)
  rw [← first, ← second, ← add_mul, ← Int.cast_add]
  rfl

/-- The decimal with the other sign writes the opposite. -/
@[simp] lemma value_neg (a : Decimal) : (-a).value = -a.value := by
  change ((-a.mantissa : ℤ) : ℚ) * 10 ^ a.exponent = -(a.mantissa * 10 ^ a.exponent)
  rw [Int.cast_neg, neg_mul]

/-! ## Significant digits -/

/-- The number can be written with no more than so many significant digits. -/
def Fits (digits : ℕ) (q : ℚ) : Prop :=
  ∃ m e : ℤ, |m| < 10 ^ digits ∧ q = m * 10 ^ e

section

variable {digits : ℕ} {q : ℚ} {d : Decimal}

lemma Fits.neg (fits : Fits digits q) : Fits digits (-q) := by
  obtain ⟨m, e, short, rfl⟩ := fits
  exact ⟨-m, e, by rwa [abs_neg], by rw [Int.cast_neg, neg_mul]⟩

lemma Fits.mono {more : ℕ} (fits : Fits digits q) (le : digits ≤ more) : Fits more q := by
  obtain ⟨m, e, short, same⟩ := fits
  exact ⟨m, e, short.trans_le (pow_le_pow_right₀ (by norm_num) le), same⟩

lemma digitCount_le_iff {n : ℕ} (some : 0 < digits) : digitCount n ≤ digits ↔ n < 10 ^ digits :=
  Nat.length_toDigits_le_iff (by decide) some

/-! ## Halves to even -/

/-- A whole number that is not above a quotient is not above the rounded one. -/
lemma le_halfEven {k num den : ℕ} (some : 0 < den) (le : k * den ≤ num) : k ≤ halfEven num den := by
  have whole : k ≤ num / den := (Nat.le_div_iff_mul_le some).2 le
  unfold halfEven
  dsimp only
  split_ifs
  all_goals omega

/-- A whole number that is not below a quotient is not below the rounded one. -/
lemma halfEven_le {k num den : ℕ} (some : 0 < den) (le : num ≤ k * den) : halfEven num den ≤ k := by
  have parts := Nat.div_add_mod num den
  rw [mul_comm] at parts
  -- where anything is left over, the next whole number is not above the given one
  have next : num % den ≠ 0 → num / den + 1 ≤ k := fun left =>
    (Nat.div_lt_iff_lt_mul some).2 (lt_of_le_of_ne le fun same => left (by rw [same]; simp))
  have whole : num / den ≤ k := Nat.div_le_of_le_mul (by rwa [mul_comm])
  unfold halfEven
  dsimp only
  split_ifs with low high
  · exact whole
  · exact next (by omega)
  · exact whole
  · exact next (by omega)

/-! ## Rounding to significant digits -/

/-- A decimal with no more digits is not rounded. -/
lemma limit_of_le (short : digitCount d.mantissa.natAbs ≤ digits) : d.limit digits = d :=
  if_pos (Nat.sub_eq_zero_of_le short)

/-- Rounding goes by the magnitude. -/
lemma limit_neg (d : Decimal) : (-d).limit digits = -d.limit digits := by
  have magnitude : (-d).mantissa.natAbs = d.mantissa.natAbs := Int.natAbs_neg _
  have sign : (-d).mantissa.sign = -d.mantissa.sign := Int.sign_neg _
  rw [limit, limit, magnitude, sign, neg_mul]
  split_ifs
  · rfl
  · rfl

/-- A number with so many digits lies on a grid, or it is small there. -/
lemma Fits.grid (fits : Fits (digits + 1) q) (g : ℤ) :
    (∃ k : ℤ, q = k * 10 ^ g) ∨ |q| < 10 ^ digits * 10 ^ g := by
  obtain ⟨m, e, short, rfl⟩ := fits
  rcases le_or_gt g e with on | off
  · refine .inl ⟨m * 10 ^ (e - g).toNat, ?_⟩
    have shift : ((e - g).toNat : ℤ) = e - g := Int.toNat_of_nonneg (by omega)
    rw [Int.cast_mul, Int.cast_pow, Int.cast_ofNat, ← zpow_natCast, shift, mul_assoc,
      ← zpow_add₀ (by norm_num), sub_add_cancel]
  · refine .inr ?_
    have scale : (0 : ℚ) < 10 ^ e := zpow_pos (by norm_num) e
    have short : |(m : ℚ)| < 10 ^ (digits + 1) := by exact_mod_cast short
    calc |(m : ℚ) * 10 ^ e| = |(m : ℚ)| * 10 ^ e := by rw [abs_mul, abs_of_pos scale]
      _ < 10 ^ (digits + 1) * 10 ^ e := mul_lt_mul_of_pos_right short scale
      _ = 10 ^ digits * 10 ^ (e + 1) := by rw [pow_succ, zpow_add_one₀ (by norm_num)]; ring
      _ ≤ 10 ^ digits * 10 ^ g := by
          refine mul_le_mul_of_nonneg_left ?_ (by positivity)
          exact zpow_le_zpow_right₀ (by norm_num) (by omega)

/-- A positive decimal with more digits is a quotient on a grid where it reaches so many digits, and
is rounded to the nearest whole number there. -/
lemma exists_limit (positive : 0 < d.mantissa) (long : digits + 1 < digitCount d.mantissa.natAbs) :
    ∃ (n c : ℕ) (g : ℤ), 10 ^ digits * 10 ^ c ≤ n ∧ d.value = n / 10 ^ c * 10 ^ g ∧
      (d.limit (digits + 1)).value = halfEven n (10 ^ c) * 10 ^ g := by
  obtain ⟨c, count⟩ := Nat.exists_eq_add_of_lt long
  refine ⟨d.mantissa.natAbs, c + 1, d.exponent + (c + 1 : ℕ), ?_, ?_, ?_⟩
  · rw [← pow_add, ← not_lt, ← digitCount_le_iff (by omega)]
    omega
  · rw [value, Nat.cast_natAbs, abs_of_pos positive, zpow_add₀ (by norm_num), zpow_natCast]
    field_simp
  · have excess : digitCount d.mantissa.natAbs - (digits + 1) = c + 1 := by omega
    rw [limit, excess, if_neg (Nat.succ_ne_zero c), Int.sign_eq_one_of_pos positive, one_mul, value,
      Int.cast_natCast]

/-- Rounding a positive decimal does not pass a number above it. -/
lemma limit_le_of_pos (positive : 0 < d.mantissa) (fits : Fits (digits + 1) q)
    (le : d.value ≤ q) : (d.limit (digits + 1)).value ≤ q := by
  rcases le_or_gt (digitCount d.mantissa.natAbs) (digits + 1) with short | long
  · rwa [limit_of_le short]
  obtain ⟨n, c, g, large, own, rounded⟩ := exists_limit positive long
  have scale : (0 : ℚ) < 10 ^ g := zpow_pos (by norm_num) g
  have width : (0 : ℚ) < 10 ^ c := by positivity
  rw [own] at le
  rw [rounded]
  rcases fits.grid g with ⟨k, rfl⟩ | small
  · rw [mul_le_mul_iff_left₀ scale, div_le_iff₀ width] at le
    have le : (n : ℤ) ≤ k * 10 ^ c := by exact_mod_cast le
    lift k to ℕ using by
      by_contra negative
      have : k * 10 ^ c < 0 := mul_neg_of_neg_of_pos (not_le.1 negative) (by positivity)
      omega
    rw [mul_le_mul_iff_left₀ scale]
    exact_mod_cast halfEven_le (Nat.pow_pos (by decide)) (by exact_mod_cast le)
  · -- a number that is small on the grid is not above the decimal
    refine absurd (le.trans_lt ((le_abs_self q).trans_lt small)) (not_lt.2 ?_)
    rw [mul_le_mul_iff_left₀ scale, le_div_iff₀ width]
    exact_mod_cast large

/-- Rounding a positive decimal does not pass a number below it. -/
lemma le_limit_of_pos (positive : 0 < d.mantissa) (fits : Fits (digits + 1) q)
    (le : q ≤ d.value) : q ≤ (d.limit (digits + 1)).value := by
  rcases le_or_gt (digitCount d.mantissa.natAbs) (digits + 1) with short | long
  · rwa [limit_of_le short]
  obtain ⟨n, c, g, large, own, rounded⟩ := exists_limit positive long
  have scale : (0 : ℚ) < 10 ^ g := zpow_pos (by norm_num) g
  have width : (0 : ℚ) < 10 ^ c := by positivity
  rw [own] at le
  rw [rounded]
  rcases fits.grid g with ⟨k, rfl⟩ | small
  · rw [mul_le_mul_iff_left₀ scale, le_div_iff₀ width] at le
    have le : k * 10 ^ c ≤ (n : ℤ) := by exact_mod_cast le
    rw [mul_le_mul_iff_left₀ scale]
    rcases le_or_gt k 0 with nonpos | some
    · exact (Int.cast_nonpos.2 nonpos).trans (Nat.cast_nonneg _)
    · lift k to ℕ using some.le
      exact_mod_cast le_halfEven (Nat.pow_pos (by decide)) (by exact_mod_cast le)
  · refine (le_abs_self q).trans (small.le.trans ?_)
    rw [mul_le_mul_iff_left₀ scale]
    exact_mod_cast le_halfEven (Nat.pow_pos (by decide)) large

/-- Rounding a decimal to some digits does not pass a number above it that has no more of them. -/
theorem limit_le (fits : Fits (digits + 1) q) (le : d.value ≤ q) :
    (d.limit (digits + 1)).value ≤ q := by
  rcases lt_trichotomy d.mantissa 0 with negative | zero | positive
  · have opposite := le_limit_of_pos (d := -d) (neg_pos.2 negative) fits.neg
      (by rwa [value_neg, neg_le_neg_iff])
    rwa [limit_neg, value_neg, neg_le_neg_iff] at opposite
  · have short : digitCount d.mantissa.natAbs ≤ digits + 1 := by
      rw [zero]
      exact Nat.le_add_left 1 digits
    rwa [limit_of_le short]
  · exact limit_le_of_pos positive fits le

/-- Rounding a decimal to some digits does not pass a number below it that has no more of them. -/
theorem le_limit (fits : Fits (digits + 1) q) (le : q ≤ d.value) :
    q ≤ (d.limit (digits + 1)).value := by
  have opposite := limit_le (d := -d) fits.neg (by rwa [value_neg, neg_le_neg_iff])
  rwa [limit_neg, value_neg, neg_le_neg_iff] at opposite

/-- A decimal whose number has no more digits is rounded to this number. -/
theorem value_limit (fits : Fits (digits + 1) d.value) : (d.limit (digits + 1)).value = d.value :=
  le_antisymm (limit_le fits le_rfl) (le_limit fits le_rfl)

end

end Inspection.Decimal
