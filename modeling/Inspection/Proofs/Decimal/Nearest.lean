import Inspection.Decimal.Format
import Inspection.Proofs.Double.Arithmetic

/-!
# Reading decimals as doubles

A number in scientific notation is read as the double nearest to it, whichever way is taken
(`toNat_toBits_ofScientific`). So decimals of one value are read alike (`toFloat_congr`), and one
that has the magnitude of a finite double is read as this double (`toFloat_eq`). The decimal that is
written for a finite magnitude is read back as it (`toFloat_shortest`): each grid keeps a decimal
that does (`toFloat_neighbour?`), and if none has one the exact decimal is taken.
-/

namespace Inspection

open Float.Model Float.Model.UnpackedFloat Double

namespace Double

/-! ## Extremes -/

/-- Numbers beyond the doubles are nearest to infinity. -/
lemma bitsOf_of_huge {q : ℚ} (huge : (2 : ℚ) ^ (1024 : ℤ) ≤ q) : bitsOf q = 2047 * 2 ^ 52 := by
  have positive : 0 < q := lt_of_lt_of_le (zpow_pos (by norm_num) _) huge
  have place : 972 ≤ quantum q := le_quantum positive huge
  have scale : (0 : ℚ) < 2 ^ quantum q := zpow_pos (by norm_num) _
  have log : (1024 : ℤ) ≤ Int.log 2 q := (Int.zpow_le_iff_le_log (by decide) positive).1 huge
  have full : 2 ^ 52 ≤ nearest (q / 2 ^ quantum q) := by
    refine le_nearest ?_
    have low : (2 : ℚ) ^ Int.log 2 q ≤ q := Int.zpow_log_le_self (by decide) positive
    have last : quantum q = Int.log 2 q - 52 := by
      rw [quantum]
      omega
    rw [le_div_iff₀ scale, last, Nat.cast_pow, ← zpow_natCast, Nat.cast_ofNat,
      ← zpow_add₀ (by norm_num)]
    exact (zpow_le_zpow_right₀ (by norm_num) (by omega)).trans low
  rw [bitsOf]
  omega

/-- Numbers below half of the least double are nearest to zero. -/
lemma bitsOf_of_tiny {q : ℚ} (positive : 0 < q) (tiny : q < (2 : ℚ) ^ (-1075 : ℤ)) :
    bitsOf q = 0 := by
  have log : Int.log 2 q < -1075 := (Int.lt_zpow_iff_log_lt (by decide) positive).1 tiny
  have last : quantum q = -1074 := by
    rw [quantum]
    omega
  have scale : (0 : ℚ) < 2 ^ (-1074 : ℤ) := zpow_pos (by norm_num) _
  have half : q / 2 ^ (-1074 : ℤ) < 1 / 2 := by
    rw [div_lt_iff₀ scale]
    refine tiny.trans_le (le_of_eq ?_)
    rw [show (-1075 : ℤ) = -1 + -1074 by norm_num, zpow_add₀ (by norm_num)]
    norm_num
  have none : ⌊q / 2 ^ (-1074 : ℤ)⌋₊ = 0 := Nat.floor_eq_zero.2 (by linarith)
  rw [bitsOf, last, nearest, none, Nat.cast_zero, sub_zero, if_pos half]
  rfl

/-! ## Scientific notation -/

/-- Powers of ten lie beyond those of two. -/
lemma two_zpow_le_ten {e : ℤ} (nonneg : 0 ≤ e) : (2 : ℚ) ^ e ≤ 10 ^ e :=
  zpow_le_zpow_left₀ nonneg (by norm_num) (by norm_num)

lemma ten_zpow_le_two {e : ℤ} (nonpos : e ≤ 0) : (10 : ℚ) ^ e ≤ 2 ^ e := by
  have opposite := inv_anti₀ (zpow_pos (by norm_num) _) (two_zpow_le_ten (neg_nonneg.2 nonpos))
  rwa [zpow_neg, zpow_neg, inv_inv, inv_inv] at opposite

/-- A number in scientific notation is rounded from its exact value. -/
lemma toNat_pack_ofScientific {m : ℕ} (some : 0 < m) (e : ℤ) :
    (UnpackedFloat.pack Format.binary64 (UnpackedFloat.ofScientific Format.binary64 m e)).toNat =
      bitsOf (m * 10 ^ e) := by
  have scale : (0 : ℚ) < 10 ^ e := zpow_pos (by norm_num) e
  have positive : (0 : ℚ) < m * 10 ^ e := mul_pos (by exact_mod_cast some) scale
  have limit : (2 : ℤ) ^ Format.binary64.exponentBits = 2048 := rfl
  rw [UnpackedFloat.ofScientific, dif_neg some.ne', limit]
  split_ifs with huge tiny whole
  · have great : (2 : ℚ) ^ (1024 : ℤ) ≤ m * 10 ^ e :=
      calc (2 : ℚ) ^ (1024 : ℤ) ≤ 2 ^ e := zpow_le_zpow_right₀ (by norm_num) (by omega)
        _ ≤ 10 ^ e := two_zpow_le_ten (by omega)
        _ ≤ m * 10 ^ e := le_mul_of_one_le_left scale.le (by exact_mod_cast some)
    rw [bitsOf_of_huge great]
    rfl
  · have small : (m * 10 ^ e : ℚ) < 2 ^ (-1075 : ℤ) :=
      calc (m * 10 ^ e : ℚ) ≤ m * 2 ^ e :=
            mul_le_mul_of_nonneg_left (ten_zpow_le_two (by omega)) (Nat.cast_nonneg m)
        _ < 2 ^ (m.log2 + 1) * 2 ^ e := by
            refine mul_lt_mul_of_pos_right ?_ (zpow_pos (by norm_num) e)
            exact_mod_cast Nat.lt_log2_self
        _ = 2 ^ ((m.log2 + 1 : ℕ) + e) := by rw [zpow_add₀ (by norm_num), zpow_natCast]
        _ ≤ 2 ^ (-1075 : ℤ) := zpow_le_zpow_right₀ (by norm_num) (by omega)
    rw [bitsOf_of_tiny positive small]
    rfl
  · have power : ((10 ^ e.toNat : ℕ) : ℚ) = 10 ^ e := by
      rw [Nat.cast_pow, Nat.cast_ofNat, ← zpow_natCast, Int.toNat_of_nonneg whole]
    have shift : ((m <<< Format.binary64.mantissaBits : ℕ) : ℚ) *
        2 ^ (-Format.binary64.mantissaBits : ℤ) = m := by
      rw [Nat.shiftLeft_eq, Nat.cast_mul, Nat.cast_pow, Nat.cast_ofNat, zpow_neg, zpow_natCast]
      exact mul_inv_cancel_right₀ (by positivity) _
    rw [toNat_pack_mul, shift, power, zpow_zero, mul_one]
    calc 2 ^ 52 ≤ m <<< Format.binary64.mantissaBits := by
          rw [Nat.shiftLeft_eq]
          exact le_mul_of_one_le_of_le some (by decide)
      _ ≤ m <<< Format.binary64.mantissaBits * 10 ^ e.toNat :=
          Nat.le_mul_of_pos_right _ (by positivity)
  · have power : ((10 ^ (-e).toNat : ℕ) : ℚ) = (10 ^ e)⁻¹ := by
      rw [Nat.cast_pow, Nat.cast_ofNat, ← zpow_natCast, Int.toNat_of_nonneg (by omega), zpow_neg]
    rw [toNat_pack_div, power, zpow_zero, mul_one, mul_one, div_inv_eq_mul]

/-! ## Reading -/

/-- Nothing in scientific notation is zero. -/
lemma toNat_toBits_zero (negative : Bool) (e : ℕ) :
    (Float.ofScientific 0 negative e).toBits.toNat = 0 := by
  rw [Float.ofScientific]
  split_ifs with small minus
  · have table : ∀ e : Fin 23,
        ((0 : ℕ).toUInt64.toFloat / Float.exactlyRepresentablePowersOfTen[e]).toBits.toNat = 0 := by
      decide +kernel
    exact table ⟨e, by omega⟩
  · have table : ∀ e : Fin 23,
        ((0 : ℕ).toUInt64.toFloat * Float.exactlyRepresentablePowersOfTen[e]).toBits.toNat = 0 := by
      decide +kernel
    exact table ⟨e, by omega⟩
  · rfl
  · rfl

/-- A positive number in scientific notation is read as the double nearest to it. -/
theorem toNat_toBits_ofScientific {m : ℕ} (some : 0 < m) (negative : Bool) (e : ℕ) :
    (Float.ofScientific m negative e).toBits.toNat =
      bitsOf (m * 10 ^ (if negative then -(e : ℤ) else e)) := by
  rw [Float.ofScientific]
  split_ifs with small minus
  · obtain ⟨short, few⟩ := small
    obtain ⟨first, value₁⟩ := normal_toFloat some short
    obtain ⟨second, value₂⟩ := normal_power ⟨e, by omega⟩
    refine (first.toNat_toBits_div second).trans ?_
    rw [value₁, value₂, zpow_neg, zpow_natCast, div_eq_mul_inv]
  · obtain ⟨short, few⟩ := small
    obtain ⟨first, value₁⟩ := normal_toFloat some short
    obtain ⟨second, value₂⟩ := normal_power ⟨e, by omega⟩
    refine (first.toNat_toBits_mul second).trans ?_
    rw [value₁, value₂, zpow_natCast]
  · exact toNat_pack_ofScientific some _
  · exact toNat_pack_ofScientific some _

end Double

namespace Decimal

variable {d d' : Decimal}

/-- A number without a sign is read in scientific notation. -/
lemma toFloat_of_nonneg (nonneg : 0 ≤ d.mantissa) : d.toFloat =
    Float.ofScientific d.mantissa.natAbs (d.exponent < 0) d.exponent.natAbs :=
  if_neg (not_lt.2 nonneg)

/-- A positive number is read as the double nearest to it. -/
theorem toNat_toFloat (positive : 0 < d.mantissa) :
    d.toFloat.toBits.toNat = Double.bitsOf d.value := by
  have exponent : (if decide (d.exponent < 0) then -(d.exponent.natAbs : ℤ)
      else d.exponent.natAbs) = d.exponent := by
    split_ifs with negative
    · have negative := of_decide_eq_true negative
      omega
    · have nonneg := of_decide_eq_false (Bool.eq_false_iff.2 negative)
      omega
  have mantissa : (d.mantissa.natAbs : ℚ) = d.mantissa := by
    rw [Nat.cast_natAbs, abs_of_pos positive]
  rw [toFloat_of_nonneg positive.le,
    Double.toNat_toBits_ofScientific (Int.natAbs_pos.2 positive.ne'), exponent, mantissa, value]

/-- Zero is read as zero. -/
lemma toNat_toFloat_zero (zero : d.mantissa = 0) : d.toFloat.toBits.toNat = 0 := by
  rw [toFloat_of_nonneg zero.ge, zero]
  exact Double.toNat_toBits_zero _ _

/-- Numbers of one value are read alike. -/
theorem toFloat_congr (nonneg : 0 ≤ d.mantissa) (nonneg' : 0 ≤ d'.mantissa)
    (same : d.value = d'.value) : d.toFloat = d'.toFloat := by
  refine Binary.eq_of_toBits ?_
  rcases nonneg.eq_or_lt with zero | positive
  · have zero' : d'.mantissa = 0 := by
      rw [← value_eq_zero_iff, ← same, value_eq_zero_iff]
      exact zero.symm
    rw [toNat_toFloat_zero zero.symm, toNat_toFloat_zero zero']
  · have positive' : 0 < d'.mantissa := by
      refine lt_of_le_of_ne nonneg' fun zero => positive.ne' ?_
      rw [← value_eq_zero_iff, same, value_eq_zero_iff]
      exact zero.symm
    rw [toNat_toFloat positive, toNat_toFloat positive', same]

/-- The exact value of a finite double is read as the double. -/
theorem toFloat_eq {x : Float} (finite : x.isFinite) (plus : (Binary.ofFloat x).negative = false)
    (nonneg : 0 ≤ d.mantissa) (same : d.value = (Binary.ofFloat x).value) : d.toFloat = x := by
  refine Binary.eq_of_toBits ?_
  have parts : d.mantissa = 0 ↔ (Binary.ofFloat x).significand = 0 := by
    rw [← value_eq_zero_iff, same, Binary.value_eq_zero_iff]
  rcases nonneg.eq_or_lt with zero | positive
  · rw [toNat_toFloat_zero zero.symm, ← Binary.bits_ofFloat, Binary.bits_of_plus plus,
      Binary.magnitudeBits_of_zero (Binary.canonical_ofFloat x) (parts.1 zero.symm)]
  · have some := Nat.pos_of_ne_zero (mt parts.2 positive.ne')
    rw [toNat_toFloat positive, same, Binary.toNat_toBits_eq finite plus some]

end Decimal

end Inspection

namespace Inspection.Decimal

/-! ## Shortest decimals -/

variable {x : Float} {num den : ℕ}

/-- What a grid holds reads back as the double. -/
lemma toFloat_neighbour? {e : ℤ} {d : Decimal} (found : neighbour? x num den e = some d) :
    0 ≤ d.mantissa ∧ d.toFloat = x := by
  unfold neighbour? at found
  dsimp only at found
  split_ifs at found with near low high
  · cases found
    exact ⟨Int.natCast_nonneg _, near⟩
  · cases found
    exact ⟨Int.natCast_nonneg _, low⟩
  · cases found
    exact ⟨by positivity, high⟩

/-- What the first of some grids holds reads back as the double. -/
lemma toFloat_shortestFrom {leading : ℤ} {count digits : ℕ} {d : Decimal}
    (found : shortestFrom x num den leading count digits = some d) :
    0 ≤ d.mantissa ∧ d.toFloat = x := by
  induction count generalizing digits with
  | zero => cases found
  | succ count ih =>
    rw [shortestFrom] at found
    split at found
    case h_1 own =>
      cases found
      exact toFloat_neighbour? own
    case h_2 => exact ih found

lemma shortest_nonneg (x : Float) : 0 ≤ (shortest x).mantissa := by
  unfold shortest
  dsimp only
  split
  case isTrue => exact le_rfl
  case isFalse =>
    split
    case h_1 => exact stripZeros_nonneg _ _ _
    case h_2 => exact Int.natCast_nonneg _

/-- The shortest decimal of zero is zero. -/
lemma shortest_of_zero (zero : (Binary.ofFloat x).significand = 0) : shortest x = ⟨0, 0⟩ := by
  unfold shortest
  exact if_pos zero

/-- The shortest decimal of a finite magnitude reads back as it. -/
theorem toFloat_shortest (finite : x.isFinite) (plus : (Binary.ofFloat x).negative = false) :
    (shortest x).toFloat = x := by
  unfold shortest
  dsimp only
  split
  case isTrue zero =>
    refine toFloat_eq finite plus le_rfl ?_
    rw [(value_eq_zero_iff _).2 rfl, (Binary.value_eq_zero_iff _).2 zero]
  case isFalse =>
    split
    case h_1 d found =>
      obtain ⟨nonneg, own⟩ := toFloat_shortestFrom found
      refine (toFloat_congr (stripZeros_nonneg _ _ _) nonneg ?_).trans own
      rw [value_stripZeros, Int.natCast_natAbs, abs_of_nonneg nonneg]
    case h_2 =>
      exact toFloat_eq finite plus (Int.natCast_nonneg _) (Binary.value_toDecimal _)

end Inspection.Decimal
