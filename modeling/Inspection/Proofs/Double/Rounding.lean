import Mathlib

/-!
# Rounding to doubles

What arithmetic on doubles rounds to. A mantissa with its round bit and its sticky bit tells how far
a number is from the mantissa (`Tells`), and a shift keeps that (`Tells.shiftRight`); rounding gives
the nearest significand at the last place of the number (`roundWithAccuracy_eq`). So the bits of the
result depend on nothing but the number (`bitsOf`, `toNat_pack_carried`).
-/

namespace Inspection.Double

open Float.Model Float.Model.UnpackedFloat

/-- The nearest whole number, a half to the even one. -/
def nearest (x : ℚ) : ℕ :=
  if x - ⌊x⌋₊ < 1 / 2 then ⌊x⌋₊
  else if x - ⌊x⌋₊ = 1 / 2 then ⌊x⌋₊ + ⌊x⌋₊ % 2
  else ⌊x⌋₊ + 1

/-- The exponent of the last place that a double near the number has. -/
def quantum (q : ℚ) : ℤ :=
  max (Int.log 2 q - 52) (-1074)

/-- The bits of the double nearest to a positive number. The steps of the significand and then those
of the exponent count on, up to infinity. -/
def bitsOf (q : ℚ) : ℕ :=
  min (nearest (q / 2 ^ quantum q) + (quantum q + 1074).toNat * 2 ^ 52) (2047 * 2 ^ 52)

/-! ## Mantissas -/

/-- What a mantissa says of a number with its round bit and its sticky bit. -/
def Tells (em : ExtendedMantissa) (x : ℚ) : Prop :=
  match em.roundBit, em.stickyBit with
  | false, false => x = em.mantissa
  | false, true => em.mantissa < x ∧ x < em.mantissa + 1 / 2
  | true, false => x = em.mantissa + 1 / 2
  | true, true => em.mantissa + 1 / 2 < x ∧ x < em.mantissa + 1

variable {em : ExtendedMantissa} {x q : ℚ}

/-- The mantissa is the whole part. -/
lemma Tells.bounds (tells : Tells em x) : em.mantissa ≤ x ∧ x < em.mantissa + 1 := by
  obtain ⟨m, r, s⟩ := em
  cases r <;> cases s <;> simp only [Tells] at tells ⊢ <;> constructor <;> linarith

lemma Tells.floor (tells : Tells em x) : ⌊x⌋₊ = em.mantissa :=
  (Nat.floor_eq_iff (le_trans (Nat.cast_nonneg _) tells.bounds.1)).2 tells.bounds

/-- The rounded mantissa is the nearest whole number. -/
lemma Tells.rounded (tells : Tells em x) : em.roundedMantissa = nearest x := by
  rw [nearest, tells.floor]
  obtain ⟨m, r, s⟩ := em
  cases r <;> cases s <;> simp only [Tells] at tells <;>
    simp only [ExtendedMantissa.roundedMantissa, ExtendedMantissa.accuracy,
      Accuracy.roundToNearestEven]
  · rw [if_pos (by linarith)]
  · rw [if_pos (by linarith)]
  · rw [if_neg (by linarith), if_pos (by linarith)]
  · rw [if_neg (by linarith), if_neg (by linarith)]

/-- A shift by one place halves the number. -/
lemma Tells.shiftRightOne (tells : Tells em x) : Tells em.shiftRightOne (x / 2) := by
  obtain ⟨m, r, s⟩ := em
  have split : (m : ℚ) = 2 * (m / 2 : ℕ) + (m % 2 : ℕ) := by
    exact_mod_cast (Nat.div_add_mod m 2).symm
  rcases Nat.mod_two_eq_zero_or_one m with even | odd
  · rw [even] at split
    cases r <;> cases s <;>
      simp only [Tells, ExtendedMantissa.shiftRightOne, even] at tells ⊢ <;> push_cast at split
    · simp; linarith
    · simp; constructor <;> linarith
    · simp; constructor <;> linarith
    · simp; constructor <;> linarith
  · rw [odd] at split
    cases r <;> cases s <;>
      simp only [Tells, ExtendedMantissa.shiftRightOne, odd] at tells ⊢ <;> push_cast at split
    · simp; linarith
    · simp; constructor <;> linarith
    · simp; constructor <;> linarith
    · simp; constructor <;> linarith

/-- A shift by some places divides the number by a power of two. -/
lemma Tells.shiftRight (tells : Tells em x) (n : ℕ) : Tells (em >>> n) (x / 2 ^ n) := by
  change Tells (n.repeat ExtendedMantissa.shiftRightOne em) (x / 2 ^ n)
  induction n with
  | zero =>
    rw [pow_zero, div_one]
    exact tells
  | succ n ih =>
    rw [Nat.repeat, pow_succ, ← div_div]
    exact ih.shiftRightOne

/-! ## Exponents -/

/-- The exponent that numbers with their first digit at a place are written with. -/
lemma targetExponent_eq (place : ℤ) :
    Format.binary64.targetExponent place = max (place - 53) (-1074) := rfl

/-- A number with enough places above an exponent has its last place there or further up. -/
lemma le_quantum (positive : 0 < q) {e : ℤ} (enough : (2 : ℚ) ^ (e + 52) ≤ q) : e ≤ quantum q := by
  have log : e + 52 ≤ Int.log 2 q := (Int.zpow_le_iff_le_log (by decide) positive).1 enough
  rw [quantum]
  omega

/-- A mantissa that is not zero tells how large the number is. -/
lemma log_of_bounds {m : ℕ} {e : ℤ} (some : 0 < m) (least : m ≤ q / 2 ^ e)
    (greatest : q / 2 ^ e < m + 1) : Int.log 2 q = m.log2 + e := by
  have scale : (0 : ℚ) < 2 ^ e := zpow_pos (by norm_num) e
  rw [le_div_iff₀ scale] at least
  rw [div_lt_iff₀ scale] at greatest
  have positive : 0 < q := lt_of_lt_of_le (mul_pos (by exact_mod_cast some) scale) least
  have low : (2 : ℚ) ^ (m.log2 + e) ≤ q := by
    rw [zpow_add₀ (by norm_num), zpow_natCast]
    refine le_trans (mul_le_mul_of_nonneg_right ?_ scale.le) least
    exact_mod_cast Nat.log2_self_le some.ne'
  have high : q < (2 : ℚ) ^ (m.log2 + e + 1) := by
    rw [add_right_comm, zpow_add₀ (by norm_num), ← Nat.cast_succ, zpow_natCast]
    refine lt_of_lt_of_le greatest (mul_le_mul_of_nonneg_right ?_ scale.le)
    exact_mod_cast Nat.lt_log2_self
  have below : m.log2 + e ≤ Int.log 2 q := (Int.zpow_le_iff_le_log (by decide) positive).1 low
  have above : Int.log 2 q < m.log2 + e + 1 :=
    (Int.lt_zpow_iff_log_lt (by decide) positive).1 high
  omega

/-- What is rounded is shifted to the last place of the number. -/
lemma targetExponent_of_bounds {m : ℕ} {e : ℤ} (positive : 0 < q) (least : m ≤ q / 2 ^ e)
    (greatest : q / 2 ^ e < m + 1) (enough : e ≤ quantum q) :
    Format.binary64.targetExponent (totalExponent m e) = quantum q := by
  rw [targetExponent_eq, totalExponent]
  rcases m.eq_zero_or_pos with rfl | some
  · -- the number is smaller than its last place, which is then the last one of all
    rw [Nat.cast_zero, zero_add, div_lt_one (zpow_pos (by norm_num) e)] at greatest
    have small : Int.log 2 q < e := (Int.lt_zpow_iff_log_lt (by decide) positive).1 greatest
    rw [quantum] at enough ⊢
    rw [show Nat.log2 0 = 0 from rfl]
    omega
  · rw [quantum, log_of_bounds some least greatest]
    omega

/-! ## Rounding -/

/-- A number divided by its last place is below the first one with too many places. -/
lemma div_quantum_lt (positive : 0 < q) : q / 2 ^ quantum q < 2 ^ 53 := by
  have scale : (0 : ℚ) < 2 ^ quantum q := zpow_pos (by norm_num) _
  rw [div_lt_iff₀ scale, ← zpow_natCast, ← zpow_add₀ (by norm_num)]
  refine (Int.lt_zpow_iff_log_lt (by decide) positive).2 ?_
  rw [quantum]
  push_cast
  omega

lemma nearest_le {n : ℕ} (nonneg : 0 ≤ x) (below : x < n) : nearest x ≤ n := by
  have floor : ⌊x⌋₊ < n := (Nat.floor_lt nonneg).2 below
  rw [nearest]
  split_ifs
  · exact floor.le
  · omega
  · omega

lemma le_nearest {n : ℕ} (least : n ≤ x) : n ≤ nearest x := by
  have floor : n ≤ ⌊x⌋₊ := Nat.le_floor least
  rw [nearest]
  split_ifs
  · exact floor
  · omega
  · omega

@[simp] lemma nearest_natCast (n : ℕ) : nearest n = n := by
  simp [nearest]

/-- A mantissa of no more than the places of a double is not shifted. -/
lemma shiftToTargetExponent_of_lt {n : ℕ} {e : ℤ} (short : n < 2 ^ 53) (least : -1074 ≤ e) :
    shiftToTargetExponent Format.binary64 n e .exact = (⟨n, false, false⟩, e) := by
  have log : n.log2 < 53 := by
    by_cases zero : n = 0
    · subst zero
      decide
    · exact (Nat.log2_lt zero).2 short
  have stay : (Format.binary64.targetExponent (totalExponent n e) - e).toNat = 0 := by
    rw [targetExponent_eq, totalExponent]
    omega
  rw [shiftToTargetExponent, shiftToExponent, stay, Int.natCast_zero, add_zero]
  rfl

/-- A mantissa that was rounded up to one place more is shifted by one place. -/
lemma shiftToTargetExponent_carry {e : ℤ} (least : -1074 ≤ e) :
    shiftToTargetExponent Format.binary64 (2 ^ 53) e .exact = (⟨2 ^ 52, false, false⟩, e + 1) := by
  have one : (Format.binary64.targetExponent (totalExponent (2 ^ 53) e) - e).toNat = 1 := by
    rw [targetExponent_eq, totalExponent, Nat.log2_two_pow]
    omega
  rw [shiftToTargetExponent, shiftToExponent, one]
  rfl

/-- The unpacked double of a significand, which may have been rounded up to one place more. -/
def carried (n : ℕ) (e : ℤ) : UnpackedFloat :=
  if h : n = 0 then .zero .positive
  else if n < 2 ^ 53 then .finite .positive n e (Nat.pos_of_ne_zero h)
  else .finite .positive (2 ^ 52) (e + 1) (by decide)

/-- What is rounded after a first shift: the second one drops the place that the rounding may have
added. -/
lemma roundWithAccuracy_of_shift {m : ℕ} {e place : ℤ} {accuracy : Accuracy}
    (shift : shiftToTargetExponent Format.binary64 m e accuracy = (em, place))
    (few : em.roundedMantissa ≤ 2 ^ 53) (least : -1074 ≤ place) :
    roundWithAccuracy Format.binary64 .positive m e accuracy =
      carried em.roundedMantissa place := by
  rw [roundWithAccuracy, shift]
  dsimp only
  rcases few.lt_or_eq with short | long
  · rw [shiftToTargetExponent_of_lt short least]
    by_cases zero : em.roundedMantissa = 0
    · rw [carried, dif_pos zero, dif_pos zero]
    · rw [carried, dif_neg zero, dif_neg zero, if_pos short]
  · rw [long, shiftToTargetExponent_carry least]
    rfl

/-- What tells of a number at an exponent that is no further up than its last place is rounded to
the nearest significand there. -/
theorem roundWithAccuracy_eq {m : ℕ} {e : ℤ} {accuracy : Accuracy} (positive : 0 < q)
    (tells : Tells (.ofMantissaAndAccuracy m accuracy) (q / 2 ^ e)) (enough : e ≤ quantum q) :
    roundWithAccuracy Format.binary64 .positive m e accuracy =
      carried (nearest (q / 2 ^ quantum q)) (quantum q) := by
  have mantissa : (ExtendedMantissa.ofMantissaAndAccuracy m accuracy).mantissa = m := by
    cases accuracy with
    | exact => rfl
    | inexact side => cases side <;> rfl
  have bounds := tells.bounds
  rw [mantissa] at bounds
  have target := targetExponent_of_bounds positive bounds.1 bounds.2 enough
  have there : e + ((quantum q - e).toNat : ℤ) = quantum q := by omega
  have shifted := tells.shiftRight (quantum q - e).toNat
  rw [div_div, ← zpow_natCast, ← zpow_add₀ (by norm_num), there] at shifted
  have few : nearest (q / 2 ^ quantum q) ≤ 2 ^ 53 := by
    refine nearest_le (div_nonneg positive.le (zpow_nonneg (by norm_num) _)) ?_
    exact_mod_cast div_quantum_lt positive
  rw [← shifted.rounded] at few ⊢
  refine roundWithAccuracy_of_shift ?_ few (le_max_right _ _)
  rw [shiftToTargetExponent, target, shiftToExponent, there]

/-! ## Bits -/

/-- The bits of the parts of a double. -/
lemma toNat_packComponents (sign : Sign) (e : BitVec 11) (m : BitVec 52) :
    (packComponents Format.binary64 sign e m).toNat =
      sign.toBitVec.toNat * 2 ^ 63 + e.toNat * 2 ^ 52 + m.toNat := by
  rw [packComponents, BitVec.toNat_append, BitVec.toNat_append,
    ← Nat.shiftLeft_add_eq_or_of_lt e.isLt, ← Nat.shiftLeft_add_eq_or_of_lt m.isLt,
    Nat.shiftLeft_eq, Nat.shiftLeft_eq]
  ring

/-- A significand and an exponent that a double can have: the greatest number of digits, or the last
place of all. -/
structure Canonical (m : ℕ) (e : ℤ) : Prop where
  short : m < 2 ^ 53
  least : -1074 ≤ e
  full : 2 ^ 52 ≤ m ∨ e = -1074

/-- The bits of a double count its significand, and its exponents from the least one. -/
lemma toNat_pack {m : ℕ} {e : ℤ} (canonical : Canonical m e) (sign : Sign) (some : 0 < m) :
    (pack Format.binary64 (.finite sign m e some)).toNat = sign.toBitVec.toNat * 2 ^ 63 +
      min (m + (e + 1074).toNat * 2 ^ 52) (2047 * 2 ^ 52) := by
  obtain ⟨short, least, full⟩ := canonical
  have biased : e + (Format.binary64.exponentBias : ℕ) + (52 : ℕ) = e + 1075 := by
    rw [show Format.binary64.exponentBias = 1023 from rfl]
    omega
  rw [UnpackedFloat.pack]
  simp only [biased, packedInfinity]
  have normal : m.log2 + 1 = Format.binary64.mantissaBits ↔ 2 ^ 52 ≤ m := by
    rw [← Nat.le_log2 some.ne', show Format.binary64.mantissaBits = 53 from rfl]
    have below := (Nat.log2_lt some.ne').2 short
    omega
  split_ifs with great digits
  · rw [toNat_packComponents, show (-1#11).toNat = 2047 from rfl,
      show (0 : BitVec 52).toNat = 0 from rfl]
    omega
  · have digits := normal.1 digits
    rw [toNat_packComponents, BitVec.toNat_ofNat, BitVec.toNat_ofNat]
    omega
  · have digits := mt normal.2 digits
    rw [toNat_packComponents, BitVec.toNat_ofNat, BitVec.toNat_ofNat]
    omega

/-- What is rounded has the bits of the nearest double. -/
theorem toNat_pack_carried (positive : 0 < q) :
    (UnpackedFloat.pack Format.binary64
      (carried (nearest (q / 2 ^ quantum q)) (quantum q))).toNat = bitsOf q := by
  have few : nearest (q / 2 ^ quantum q) ≤ 2 ^ 53 := by
    refine nearest_le (div_nonneg positive.le (zpow_nonneg (by norm_num) _)) ?_
    exact_mod_cast div_quantum_lt positive
  have full : 2 ^ 52 ≤ nearest (q / 2 ^ quantum q) ∨ quantum q = -1074 := by
    rcases max_choice (Int.log 2 q - 52) (-1074) with own | least
    · refine .inl (le_nearest ?_)
      have low : (2 : ℚ) ^ Int.log 2 q ≤ q := Int.zpow_log_le_self (by decide) positive
      have place : quantum q = Int.log 2 q - 52 := own
      rw [le_div_iff₀ (zpow_pos (by norm_num) _), place, Nat.cast_pow, ← zpow_natCast,
        Nat.cast_ofNat, ← zpow_add₀ (by norm_num)]
      exact (zpow_le_zpow_right₀ (by norm_num) (by omega)).trans low
    · exact .inr least
  have least : -1074 ≤ quantum q := le_max_right _ _
  rw [bitsOf]
  generalize nearest (q / 2 ^ quantum q) = n at few full
  generalize quantum q = e at full least
  rw [carried]
  split_ifs with zero short
  · obtain rfl : e = -1074 := full.resolve_left (by omega)
    subst zero
    rfl
  · exact (toNat_pack ⟨short, least, full⟩ .positive _).trans (Nat.zero_add _)
  · have sign : Sign.positive.toBitVec.toNat = 0 := rfl
    rw [toNat_pack ⟨by decide, by omega, .inl le_rfl⟩, sign]
    omega

end Inspection.Double
