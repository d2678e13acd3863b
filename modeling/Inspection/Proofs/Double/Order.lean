import Inspection.Number.Sum
import Inspection.Proofs.Double.Parts

/-!
# Order and opposites of doubles

Larger numbers have larger bits (`bitsOf_mono`), and a number that differs from the magnitude of a
double by less than a part in 2⁵⁴ has the same bits (`bitsOf_of_near`). Finite doubles are ordered
as the numbers that they stand for (`le_iff_signed`). Arithmetic takes the opposite of every double,
infinities and what is no number included (`unpack_neg`). So the opposite of the opposite is the
double (`neg_neg_self`), and it is finite just if the double is (`isFinite_neg`).
-/

namespace Inspection

open Float.Model Double

namespace Double

variable {p q x y : ℚ} {m : ℕ} {e : ℤ}

/-! ## Larger numbers -/

/-- The nearest whole number is the next below or the next above. -/
lemma nearest_bounds (x : ℚ) : ⌊x⌋₊ ≤ nearest x ∧ nearest x ≤ ⌊x⌋₊ + 1 := by
  rw [nearest]
  split_ifs
  all_goals omega

lemma nearest_mono (le : x ≤ y) : nearest x ≤ nearest y := by
  rcases (Nat.floor_le_floor le).lt_or_eq with less | same
  · exact (nearest_bounds x).2.trans ((Nat.succ_le_of_lt less).trans (nearest_bounds y).1)
  · have rest : x - ⌊y⌋₊ ≤ y - ⌊y⌋₊ := sub_le_sub_right le _
    rw [nearest, nearest, same]
    -- what is left over is not larger, so it is not on the further side of a half
    rcases lt_trichotomy (x - ⌊y⌋₊) (1 / 2) with low | half | high
    · rw [if_pos low]
      split_ifs
      all_goals omega
    · rw [if_neg half.not_lt, if_pos half, if_neg (not_lt.2 (half.ge.trans rest))]
      split_ifs
      all_goals omega
    · have high' := high.trans_le rest
      rw [if_neg high.not_gt, if_neg high.ne', if_neg high'.not_gt, if_neg high'.ne']

/-- The last place of larger numbers is not further down. -/
lemma quantum_mono (positive : 0 < p) (le : p ≤ q) : quantum p ≤ quantum q := by
  have log : Int.log 2 p ≤ Int.log 2 q := Int.log_mono_right positive le
  rw [quantum, quantum]
  omega

/-- A number divided by its last place has all the digits of a double, unless that place is the last
one of all. -/
lemma le_div_quantum (positive : 0 < q) (above : -1074 < quantum q) :
    2 ^ 52 ≤ q / 2 ^ quantum q := by
  have low : (2 : ℚ) ^ Int.log 2 q ≤ q := Int.zpow_log_le_self (by decide) positive
  have place : Int.log 2 q = 52 + quantum q := by
    rw [quantum] at above ⊢
    omega
  rw [place, zpow_add₀ (by norm_num)] at low
  rw [le_div_iff₀ (zpow_pos (by norm_num) _)]
  exact_mod_cast low

/-- Larger numbers have larger bits. -/
theorem bitsOf_mono (positive : 0 < p) (le : p ≤ q) : bitsOf p ≤ bitsOf q := by
  have scale (e : ℤ) : (0 : ℚ) < 2 ^ e := zpow_pos (by norm_num) e
  have least : -1074 ≤ quantum p := le_max_right _ _
  rw [bitsOf, bitsOf]
  refine min_le_min_right _ ?_
  rcases (quantum_mono positive le).lt_or_eq with less | same
  · -- what is gained by a place makes up for all that a significand can lose
    have few : nearest (p / 2 ^ quantum p) ≤ 2 ^ 53 := by
      refine nearest_le (div_nonneg positive.le (scale _).le) ?_
      exact_mod_cast div_quantum_lt positive
    have full : 2 ^ 52 ≤ nearest (q / 2 ^ quantum q) := by
      refine le_nearest ?_
      exact_mod_cast le_div_quantum (positive.trans_le le) (least.trans_lt less)
    omega
  · rw [same]
    exact Nat.add_le_add_right (nearest_mono (div_le_div_of_nonneg_right le (scale _).le)) _

/-! ## Near numbers -/

/-- A number that differs from a whole one by less than a half is nearest to it. -/
lemma nearest_of_near (near : |x - m| < 1 / 2) : nearest x = m := by
  obtain ⟨low, high⟩ := abs_lt.1 near
  rcases le_or_gt (m : ℚ) x with above | below
  · have floor : ⌊x⌋₊ = m :=
      (Nat.floor_eq_iff ((Nat.cast_nonneg m).trans above)).2 ⟨above, by linarith⟩
    rw [nearest, floor, if_pos high]
  · cases m with
    | zero =>
      have floor : ⌊x⌋₊ = 0 := Nat.floor_eq_zero.2 (by push_cast at below; linarith)
      rw [nearest, floor, if_pos (by exact_mod_cast high)]
    | succ k =>
      push_cast at low below
      have floor : ⌊x⌋₊ = k :=
        (Nat.floor_eq_iff (by linarith [(Nat.cast_nonneg k : (0 : ℚ) ≤ k)])).2
          ⟨by linarith, below⟩
      have half : 1 / 2 < x - k := by linarith
      rw [nearest, floor, if_neg half.not_gt, if_neg half.ne']

/-- A number is in the range of a last place if it has the digits of a double there. -/
lemma quantum_eq (least : -1074 ≤ e) (full : 2 ^ 52 ≤ q / 2 ^ e ∨ e = -1074) (positive : 0 < q)
    (short : q / 2 ^ e < 2 ^ 53) : quantum q = e := by
  have scale : (0 : ℚ) < 2 ^ e := zpow_pos (by norm_num) e
  have above : Int.log 2 q < 53 + e := by
    rw [← Int.lt_zpow_iff_log_lt Nat.one_lt_two positive, Nat.cast_ofNat, zpow_add₀ (by norm_num)]
    rw [div_lt_iff₀ scale] at short
    exact_mod_cast short
  rcases full with full | rfl
  · have below : 52 + e ≤ Int.log 2 q := by
      rw [← Int.zpow_le_iff_le_log Nat.one_lt_two positive, Nat.cast_ofNat,
        zpow_add₀ (by norm_num)]
      rw [le_div_iff₀ scale] at full
      exact_mod_cast full
    rw [quantum]
    omega
  · rw [quantum]
    omega

/-- A number that differs from the magnitude of a double by less than a part in 2⁵⁴ is nearest to
this double. -/
theorem bitsOf_of_near (canonical : Canonical m e) (some : 0 < m)
    (near : |q - m * 2 ^ e| * 2 ^ 54 < m * 2 ^ e) : bitsOf q = bitsOf (m * 2 ^ e) := by
  rw [Binary.bitsOf_value canonical some]
  obtain ⟨short, least, full⟩ := canonical
  have scale : (0 : ℚ) < 2 ^ e := zpow_pos (by norm_num) e
  obtain ⟨r, rfl⟩ : ∃ r, q = r * 2 ^ e := ⟨q / 2 ^ e, (div_mul_cancel₀ q scale.ne').symm⟩
  rw [← sub_mul, abs_mul, abs_of_pos scale, mul_right_comm, mul_lt_mul_iff_left₀ scale,
    ← lt_div_iff₀ (by positivity)] at near
  obtain ⟨low, high⟩ := abs_lt.1 near
  have short' : (m : ℚ) + 1 ≤ 2 ^ 53 := by exact_mod_cast short
  have some' : (1 : ℚ) ≤ m := by exact_mod_cast some
  have positive : 0 < r := by linarith
  have own : r * 2 ^ e / 2 ^ e = r := mul_div_cancel_right₀ _ scale.ne'
  by_cases there : 2 ^ 52 ≤ r ∨ e = -1074
  · have place : quantum (r * 2 ^ e) = e := by
      refine quantum_eq least ?_ (mul_pos positive scale) ?_
      · rwa [own]
      · rw [own]
        linarith
    have whole : nearest r = m := nearest_of_near (near.trans_le (by linarith))
    rw [bitsOf, place, own, whole]
  · -- the least number with the digits of a double is approached from the place further down
    rw [not_or, not_le] at there
    obtain ⟨below, above⟩ := there
    have power : m = 2 ^ 52 := by
      refine le_antisymm (Nat.le_of_lt_succ ?_) (full.resolve_right above)
      have bound : (m : ℚ) < 2 ^ 52 + 1 := by linarith
      exact_mod_cast bound
    have twice : r * 2 ^ e / 2 ^ (e - 1) = 2 * r := by
      rw [zpow_sub_one₀ (by norm_num)]
      field_simp
    rw [power] at low
    push_cast at low
    have place : quantum (r * 2 ^ e) = e - 1 := by
      refine quantum_eq (by omega) (.inl ?_) (mul_pos positive scale) ?_
      · rw [twice]
        linarith
      · rw [twice]
        linarith
    have whole : nearest (2 * r) = 2 ^ 53 := by
      refine nearest_of_near (abs_lt.2 ?_)
      push_cast
      exact ⟨by linarith, by linarith⟩
    rw [bitsOf, place, twice, whole, power]
    omega

end Double

/-! ## The order -/

namespace Binary

/-- The number that the parts stand for. -/
def signed (b : Binary) : ℚ :=
  if b.negative then -b.value else b.value

variable {a b : Binary}

/-- Parts with a lower last place have the lower magnitude. -/
lemma value_lt_of_scale (canonical : Canonical a.significand a.scale)
    (canonical' : Canonical b.significand b.scale) (lower : a.scale < b.scale) :
    a.value < b.value := by
  have least := canonical.least
  have full : 2 ^ 52 ≤ b.significand := canonical'.full.resolve_right (by omega)
  have short : (a.significand : ℚ) < 2 ^ 53 := by exact_mod_cast canonical.short
  calc a.value < 2 ^ 53 * 2 ^ a.scale :=
        mul_lt_mul_of_pos_right short (zpow_pos (by norm_num) _)
    _ = 2 ^ 52 * 2 ^ (a.scale + 1) := by rw [zpow_add_one₀ (by norm_num)]; ring
    _ ≤ 2 ^ 52 * 2 ^ b.scale :=
        mul_le_mul_of_nonneg_left (zpow_le_zpow_right₀ (by norm_num) lower) (by norm_num)
    _ ≤ b.value := mul_le_mul_of_nonneg_right (by exact_mod_cast full) (zpow_nonneg (by norm_num) _)

/-- Magnitudes are ordered by their last place and then by their significand. -/
lemma value_le_iff (canonical : Canonical a.significand a.scale)
    (canonical' : Canonical b.significand b.scale) : a.value ≤ b.value ↔
      ((compare a.scale b.scale).then (compare a.significand b.significand)).isLE = true := by
  rcases lt_trichotomy a.scale b.scale with lower | same | higher
  · rw [compare_lt_iff_lt.2 lower]
    exact iff_of_true (value_lt_of_scale canonical canonical' lower).le rfl
  · rw [compare_eq_iff_eq.2 same, value, value, same,
      mul_le_mul_iff_left₀ (zpow_pos (by norm_num) _), Nat.cast_le]
    exact Nat.isLE_compare.symm
  · rw [compare_gt_iff_gt.2 higher]
    exact iff_of_false (not_le.2 (value_lt_of_scale canonical' canonical higher))
      Bool.false_ne_true

lemma signed_of_plus (plus : a.negative = false) : a.signed = a.value := by
  rw [signed, plus]
  rfl

lemma signed_of_minus (minus : a.negative = true) : a.signed = -a.value := by
  rw [signed, minus]
  rfl

lemma signed_of_zero (zero : a.significand = 0) : a.signed = 0 := by
  have value := (value_eq_zero_iff a).2 zero
  rw [signed, value, neg_zero, ite_self]

lemma value_nonneg (a : Binary) : 0 ≤ a.value :=
  mul_nonneg (Nat.cast_nonneg _) (zpow_nonneg (by norm_num) _)

lemma value_pos (some : 0 < a.significand) : 0 < a.value :=
  mul_pos (by exact_mod_cast some) (zpow_pos (by norm_num) _)

/-- Magnitudes are compared the other way round below zero. -/
lemma isLE_swap (a b : Binary) :
    ((compare a.scale b.scale).then (compare a.significand b.significand)).swap.isLE =
      ((compare b.scale a.scale).then (compare b.significand a.significand)).isLE := by
  rw [Ordering.swap_then, ← Std.OrientedCmp.eq_swap, ← Std.OrientedCmp.eq_swap]

/-- Arithmetic orders parts that are not zero as the numbers that they stand for. -/
lemma le_finite_iff (canonical : Canonical a.significand a.scale)
    (canonical' : Canonical b.significand b.scale) (some : 0 < a.significand)
    (some' : 0 < b.significand) :
    (UnpackedFloat.finite a.sign a.significand a.scale some).le
      (.finite b.sign b.significand b.scale some') = true ↔ a.signed ≤ b.signed := by
  have positive := value_pos some
  have positive' := value_pos some'
  rw [sign, sign]
  cases minus : a.negative with
  | true =>
    rw [signed_of_minus minus]
    cases minus' : b.negative with
    | true =>
      rw [signed_of_minus minus', neg_le_neg_iff, value_le_iff canonical' canonical, ← isLE_swap]
      exact Iff.rfl
    | false =>
      rw [signed_of_plus minus']
      exact iff_of_true rfl (by linarith)
  | false =>
    rw [signed_of_plus minus]
    cases minus' : b.negative with
    | true =>
      rw [signed_of_minus minus']
      exact iff_of_false Bool.false_ne_true (by linarith)
    | false =>
      rw [signed_of_plus minus', value_le_iff canonical canonical']
      exact Iff.rfl

/-- Arithmetic orders parts as the numbers that they stand for. -/
lemma le_unpacked_iff (canonical : Canonical a.significand a.scale)
    (canonical' : Canonical b.significand b.scale) :
    a.unpacked.le b.unpacked = true ↔ a.signed ≤ b.signed := by
  rw [unpacked, unpacked]
  split
  case isTrue zero =>
    rw [signed_of_zero zero]
    split
    case isTrue zero' =>
      rw [signed_of_zero zero']
      exact iff_of_true rfl le_rfl
    case isFalse some' =>
      have positive := value_pos (Nat.pos_of_ne_zero some')
      rw [sign, sign]
      cases minus : b.negative with
      | true =>
        rw [signed_of_minus minus]
        exact iff_of_false Bool.false_ne_true (by linarith)
      | false =>
        rw [signed_of_plus minus]
        exact iff_of_true rfl positive.le
  case isFalse some =>
    split
    case isTrue zero' =>
      have positive := value_pos (Nat.pos_of_ne_zero some)
      rw [signed_of_zero zero', sign, sign]
      cases minus : a.negative with
      | true =>
        rw [signed_of_minus minus]
        exact iff_of_true rfl (by linarith)
      | false =>
        rw [signed_of_plus minus]
        exact iff_of_false Bool.false_ne_true (by linarith)
    case isFalse some' => exact le_finite_iff canonical canonical' _ _

/-- Finite doubles are ordered as the numbers that they stand for. -/
theorem le_iff_signed {x y : Float} (finite : x.isFinite) (finite' : y.isFinite) :
    x ≤ y ↔ (ofFloat x).signed ≤ (ofFloat y).signed := by
  have order : x ≤ y ↔ (x.toModel.unpack.le y.toModel.unpack) = true := decide_eq_true_iff
  rw [order, unpack_of_finite finite, unpack_of_finite finite']
  exact le_unpacked_iff (canonical_ofFloat x) (canonical_ofFloat y)

end Binary

open Float.Model.UnpackedFloat

/-- A number is finite just if the double is. -/
lemma Number.isFinite_iff {x : Float} : isFinite x ↔ x.isFinite := by
  rw [Binary.isFinite_eq, isFinite]

namespace Binary

variable {x : Float}

/-! ## What is not finite -/

/-- A double that stands for infinity has the bits of infinity. -/
lemma eq_of_infinity {s : Sign} (infinite : x.toModel.unpack = .infinity s) :
    x = .ofModel (.pack (.infinity s)) := by
  rw [unpack_eq] at infinite
  split at infinite
  case isTrue =>
    rw [unpacked] at infinite
    split at infinite <;> cases infinite
  case isFalse large =>
    split at infinite
    case isFalse => cases infinite
    case isTrue whole =>
      have sign := UnpackedFloat.infinity.inj infinite
      have word := x.toBits.toNat_lt
      rw [ofFloat_eq, magnitudeBits_ofBits] at large
      rw [ofFloat_eq, Binary.sign, negative_ofBits] at sign
      refine eq_of_toBits ?_
      by_cases minus : x.toBits.toNat / 2 ^ 63 = 1
      · rw [decide_eq_true minus] at sign
        rw [← sign]
        exact (by omega : x.toBits.toNat = 2 ^ 63 + 2047 * 2 ^ 52)
      · rw [decide_eq_false minus] at sign
        rw [← sign]
        exact (by omega : x.toBits.toNat = 2047 * 2 ^ 52)

/-- There is only one double that is no number. -/
lemma eq_of_notANumber (other : x.toModel.unpack = .notANumber) :
    x = .ofModel (.pack .notANumber) := by
  obtain ⟨⟨bits, valid⟩⟩ := x
  have canonical : bits.toBitVec = packedNaN Format.binary64 := by
    rw [Float.Model.unpack, UnpackedFloat.unpack] at other
    dsimp only at other
    split_ifs at other with top fraction
    · exact valid.eq_packedNaN top fraction
  obtain rfl : bits = .ofBitVec (packedNaN Format.binary64) := UInt64.toBitVec_inj.1 canonical
  rfl

/-! ## Opposites -/

/-- The opposite of a finite double is finite. -/
lemma isFinite_neg_of_finite (finite : x.isFinite) : (-x).isFinite := by
  rw [isFinite_iff, ofFloat_neg finite]
  exact isFinite_iff.1 finite

lemma unpack_neg_of_finite (finite : x.isFinite) :
    (-x).toModel.unpack = x.toModel.unpack.neg := by
  rw [unpack_of_finite (isFinite_neg_of_finite finite), ofFloat_neg finite, unpacked_flip,
    unpack_of_finite finite]

/-- Arithmetic takes the opposite of any double. -/
theorem unpack_neg (x : Float) : (-x).toModel.unpack = x.toModel.unpack.neg := by
  have own : (-x).toModel = .pack x.toModel.unpack.neg := rfl
  cases kind : x.toModel.unpack with
  | notANumber =>
    rw [own, kind]
    rfl
  | infinity s =>
    rw [own, kind]
    cases s with
    | positive => rfl
    | negative => rfl
  | zero s => rw [unpack_neg_of_finite (congrArg UnpackedFloat.isFinite kind), kind]
  | finite s m e some =>
    rw [unpack_neg_of_finite (congrArg UnpackedFloat.isFinite kind), kind]

/-- The opposite is finite just if the double is. -/
theorem isFinite_neg (x : Float) : (-x).isFinite = x.isFinite := by
  change (-x).toModel.unpack.isFinite = x.toModel.unpack.isFinite
  rw [unpack_neg]
  cases x.toModel.unpack <;> rfl

/-- The opposite is infinite just if the double is. -/
lemma isInf_neg (x : Float) : (-x).isInf = x.isInf := by
  change (-x).toModel.unpack.isInf = x.toModel.unpack.isInf
  rw [unpack_neg]
  cases x.toModel.unpack <;> rfl

/-- The opposite of the opposite is the double. -/
theorem neg_neg_self (x : Float) : - -x = x := by
  cases kind : x.toModel.unpack with
  | notANumber =>
    rw [eq_of_notANumber kind]
    rfl
  | infinity s =>
    rw [eq_of_infinity kind]
    cases s with
    | positive => rfl
    | negative => rfl
  | zero s => exact neg_neg_of_finite (congrArg UnpackedFloat.isFinite kind)
  | finite s m e some => exact neg_neg_of_finite (congrArg UnpackedFloat.isFinite kind)

/-- The opposite of a finite double with a sign has none. -/
lemma plus_neg (finite : x.isFinite) (minus : (ofFloat x).negative = true) :
    (ofFloat (-x)).negative = false := by
  rw [ofFloat_neg finite, flip, minus]
  rfl

/-- The opposite of a finite double has the same magnitude. -/
lemma value_neg (finite : x.isFinite) : (ofFloat (-x)).value = (ofFloat x).value := by
  rw [ofFloat_neg finite]
  rfl

/-! ## Bits of finite doubles -/

section

variable (rounded : x.toBits.toNat ≤ 2047 * 2 ^ 52)

include rounded

/-- A double with fewer bits than infinity is finite. -/
lemma isFinite_iff_bits : x.isFinite ↔ x.toBits.toNat < 2047 * 2 ^ 52 := by
  rw [isFinite_iff, ofFloat_eq, magnitudeBits_ofBits]
  omega

/-- A double with the bits of infinity is infinite. -/
lemma isInf_iff_bits : x.isInf ↔ x.toBits.toNat = 2047 * 2 ^ 52 := by
  have finite := isFinite_iff_bits rounded
  constructor
  · intro infinite
    have other : x.isFinite = false := by
      rw [isFinite_eq, infinite, Bool.not_true, Bool.and_false]
    rw [other] at finite
    exact le_antisymm rounded (not_lt.1 (mt finite.2 nofun))
  · intro bits
    have unpacked := unpack_eq x
    rw [if_neg (mt isFinite_iff.2 (mt finite.1 (by omega))), if_pos (by omega)] at unpacked
    exact congrArg UnpackedFloat.isInf unpacked

end

end Binary

end Inspection
