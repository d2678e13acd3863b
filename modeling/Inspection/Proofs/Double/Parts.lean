import Inspection.Proofs.Decimal.Value
import Inspection.Proofs.Double.Rounding

/-!
# Parts of doubles

The binary parts of a double and its bits tell each other (`bits_ofFloat`, `ofBits_bits`), and a
finite double is unpacked into its parts (`unpack_of_finite`). It is the double nearest to its own
magnitude (`toNat_toBits_eq`), and its opposite has the other sign (`ofFloat_neg`).
-/

namespace Inspection

open Float.Model Float.Model.UnpackedFloat Double

namespace Binary

/-! ## Bits -/

/-- The sign of the parts. -/
def sign (b : Binary) : Sign :=
  if b.negative then .negative else .positive

/-- The bits of the magnitude: they count the significand, and the exponents from the least one. -/
def magnitudeBits (b : Binary) : ℕ :=
  b.significand + (b.scale + 1074).toNat * 2 ^ 52

/-- The bits of the parts. -/
def bits (b : Binary) : ℕ :=
  b.sign.toBitVec.toNat * 2 ^ 63 + b.magnitudeBits

/-- The parts that bits stand for. -/
def ofBits (n : ℕ) : Binary :=
  if n / 2 ^ 52 % 2 ^ 11 = 0 then ⟨n / 2 ^ 63 = 1, n % 2 ^ 52, -1074⟩
  else ⟨n / 2 ^ 63 = 1, n % 2 ^ 52 + 2 ^ 52, (n / 2 ^ 52 % 2 ^ 11 : ℕ) - 1075⟩

lemma ofFloat_eq (x : Float) : ofFloat x = ofBits x.toBits.toNat := rfl

@[simp] lemma toNat_sign (b : Binary) : b.sign.toBitVec.toNat = b.negative.toNat := by
  rw [sign]
  cases b.negative with
  | true => rfl
  | false => rfl

section

variable {n : ℕ}

lemma ofBits_of_zero (zero : n / 2 ^ 52 % 2 ^ 11 = 0) :
    ofBits n = ⟨n / 2 ^ 63 = 1, n % 2 ^ 52, -1074⟩ :=
  if_pos zero

lemma ofBits_of_ne_zero (some : n / 2 ^ 52 % 2 ^ 11 ≠ 0) :
    ofBits n = ⟨n / 2 ^ 63 = 1, n % 2 ^ 52 + 2 ^ 52, (n / 2 ^ 52 % 2 ^ 11 : ℕ) - 1075⟩ :=
  if_neg some

/-- The sign is the first bit. -/
lemma negative_ofBits (n : ℕ) : (ofBits n).negative = decide (n / 2 ^ 63 = 1) := by
  by_cases zero : n / 2 ^ 52 % 2 ^ 11 = 0
  · rw [ofBits_of_zero zero]
  · rw [ofBits_of_ne_zero zero]

/-- The bits of the magnitude are those below the sign. -/
lemma magnitudeBits_ofBits (n : ℕ) : (ofBits n).magnitudeBits = n % 2 ^ 63 := by
  by_cases zero : n / 2 ^ 52 % 2 ^ 11 = 0
  · simp only [magnitudeBits, ofBits_of_zero zero, neg_add_cancel, Int.toNat_zero, zero_mul,
      add_zero]
    omega
  · simp only [magnitudeBits, ofBits_of_ne_zero zero]
    omega

/-- The parts that bits stand for have these bits. -/
lemma bits_ofBits (word : n < 2 ^ 64) : (ofBits n).bits = n := by
  have sign : (ofBits n).negative.toNat = n / 2 ^ 63 := by
    rcases (by omega : n / 2 ^ 63 = 0 ∨ n / 2 ^ 63 = 1) with plus | minus
    · rw [negative_ofBits, plus]
      rfl
    · rw [negative_ofBits, minus]
      rfl
  rw [bits, toNat_sign, magnitudeBits_ofBits, sign]
  omega

/-- The parts that bits stand for can be those of a double. -/
lemma canonical_ofBits (n : ℕ) : Canonical (ofBits n).significand (ofBits n).scale := by
  by_cases zero : n / 2 ^ 52 % 2 ^ 11 = 0
  · rw [ofBits_of_zero zero]
    refine ⟨?_, le_rfl, .inr rfl⟩
    dsimp only
    omega
  · rw [ofBits_of_ne_zero zero]
    refine ⟨?_, ?_, .inl (Nat.le_add_left _ _)⟩
    · dsimp only
      omega
    · dsimp only
      omega

end

/-- The bits of finite parts stand for them. -/
lemma ofBits_bits {b : Binary} (canonical : Canonical b.significand b.scale)
    (finite : b.magnitudeBits < 2047 * 2 ^ 52) : ofBits b.bits = b := by
  obtain ⟨short, least, full⟩ := canonical
  have top := Bool.toNat_le b.negative
  have sign : decide (b.bits / 2 ^ 63 = 1) = b.negative := by
    rw [bits, toNat_sign]
    cases negative : b.negative <;> simp <;> omega
  rw [magnitudeBits] at finite
  rw [ofBits, sign, bits, toNat_sign, magnitudeBits]
  obtain ⟨negative, m, e⟩ := b
  dsimp only at *
  split
  case isTrue zero =>
    congr 1 <;> omega
  case isFalse some =>
    congr 1 <;> omega

/-- The bits of parts without a sign are those of the magnitude. -/
lemma bits_of_plus {b : Binary} (plus : b.negative = false) : b.bits = b.magnitudeBits := by
  rw [bits, toNat_sign, plus]
  exact Nat.zero_add _

/-- Zero has no bits but for the sign. -/
lemma magnitudeBits_of_zero {b : Binary} (canonical : Canonical b.significand b.scale)
    (none : b.significand = 0) : b.magnitudeBits = 0 := by
  have least : b.scale = -1074 := canonical.full.resolve_left (by omega)
  rw [magnitudeBits, none, least]
  rfl

variable {x y : Float}

/-- The parts of a double have its bits. -/
lemma bits_ofFloat (x : Float) : (ofFloat x).bits = x.toBits.toNat :=
  bits_ofBits x.toBits.toNat_lt

/-- The parts of a double can be those of one. -/
lemma canonical_ofFloat (x : Float) : Canonical (ofFloat x).significand (ofFloat x).scale :=
  canonical_ofBits _

/-- A double is told by its bits. -/
lemma eq_of_toBits (same : x.toBits.toNat = y.toBits.toNat) : x = y := by
  obtain ⟨⟨bits, valid⟩⟩ := x
  obtain ⟨⟨bits', valid'⟩⟩ := y
  obtain rfl : bits = bits' := UInt64.toNat_inj.1 same
  rfl

/-- A double is told by its parts. -/
lemma eq_of_ofFloat (same : ofFloat x = ofFloat y) : x = y := by
  refine eq_of_toBits ?_
  rw [← bits_ofFloat, same, bits_ofFloat]

/-! ## Unpacking -/

/-- Finite parts as arithmetic takes them. -/
def unpacked (b : Binary) : UnpackedFloat :=
  if h : b.significand = 0 then .zero b.sign
  else .finite b.sign b.significand b.scale (Nat.pos_of_ne_zero h)

lemma toNat_unpackExponent (x : Float) :
    (@unpackExponent Format.binary64 x.toModel.toBits.toBitVec).toNat =
      x.toBits.toNat / 2 ^ 52 % 2 ^ 11 := by
  simp [unpackExponent, Nat.shiftRight_eq_div_pow]
  rfl

lemma toNat_unpackMantissa (x : Float) :
    (@unpackMantissa Format.binary64 x.toModel.toBits.toBitVec).toNat =
      x.toBits.toNat % 2 ^ 52 := by
  simp [unpackMantissa]
  rfl

lemma toNat_unpackSign (x : Float) :
    (@unpackSign Format.binary64 x.toModel.toBits.toBitVec).toNat = x.toBits.toNat / 2 ^ 63 := by
  have word := x.toBits.toNat_lt
  have bit : x.toBits.toNat / 2 ^ 63 % 2 ^ 1 = x.toBits.toNat / 2 ^ 63 := by omega
  refine Eq.trans ?_ bit
  simp [unpackSign, Nat.shiftRight_eq_div_pow]
  rfl

/-- The sign is that of the parts. -/
lemma ofBitVec_unpackSign (x : Float) :
    Sign.ofBitVec (@unpackSign Format.binary64 x.toModel.toBits.toBitVec) =
      (ofBits x.toBits.toNat).sign := by
  have word := x.toBits.toNat_lt
  have top := toNat_unpackSign x
  rw [Binary.sign, negative_ofBits, Sign.ofBitVec]
  obtain plus | minus : x.toBits.toNat / 2 ^ 63 = 0 ∨ x.toBits.toNat / 2 ^ 63 = 1 := by omega
  · have zero : @unpackSign Format.binary64 x.toModel.toBits.toBitVec = 0#1 :=
      BitVec.eq_of_toNat_eq (top.trans plus)
    rw [if_pos zero, plus]
    rfl
  · have one : @unpackSign Format.binary64 x.toModel.toBits.toBitVec = 1#1 :=
      BitVec.eq_of_toNat_eq (top.trans minus)
    rw [one, minus]
    rfl

/-- A double is unpacked into its parts, unless its exponent stands for infinity or for what is no
number. -/
lemma unpack_eq (x : Float) : x.toModel.unpack =
    if (ofFloat x).magnitudeBits < 2047 * 2 ^ 52 then (ofFloat x).unpacked
    else if x.toBits.toNat % 2 ^ 52 = 0 then .infinity (ofFloat x).sign else .notANumber := by
  have e := toNat_unpackExponent x
  have m := toNat_unpackMantissa x
  have s := ofBitVec_unpackSign x
  have whole : x.toBits.toNat % 2 ^ 63 < 2047 * 2 ^ 52 ↔
      ¬x.toBits.toNat / 2 ^ 52 % 2 ^ 11 = 2047 := by omega
  have normal : (1#1 ++ @unpackMantissa Format.binary64 x.toModel.toBits.toBitVec).toNat =
      x.toBits.toNat % 2 ^ 52 + 2 ^ 52 := by
    rw [BitVec.toNat_append, ← Nat.shiftLeft_add_eq_or_of_lt (BitVec.isLt _), m]
    exact Nat.add_comm _ _
  rw [ofFloat_eq, Float.Model.unpack, UnpackedFloat.unpack, magnitudeBits_ofBits,
    if_congr whole rfl rfl, ite_not]
  simp only [s, ← BitVec.toNat_inj, e, m, normal, BitVec.toNat_zero]
  refine if_congr Iff.rfl rfl ?_
  rw [unpacked]
  generalize (ofBits x.toBits.toNat).sign = sign
  by_cases zero : x.toBits.toNat / 2 ^ 52 % 2 ^ 11 = 0
  · rw [if_pos zero]
    simp only [ofBits_of_zero zero]
    by_cases none : x.toBits.toNat % 2 ^ 52 = 0
    · rw [dif_pos none, dif_pos none]
    · rw [dif_neg none, dif_neg none, zero]
      rfl
  · rw [if_neg zero]
    simp only [ofBits_of_ne_zero zero]
    rw [dif_neg (Nat.add_eq_zero_iff.not.2 fun h => by cases h.2)]
    rfl

/-- A double is finite if its exponent does not stand for infinity or for what is no number. -/
lemma isFinite_iff : x.isFinite ↔ (ofFloat x).magnitudeBits < 2047 * 2 ^ 52 := by
  rw [Float.isFinite, Float.Model.isFinite, unpack_eq]
  split
  case isTrue finite =>
    rw [unpacked]
    split
    case isTrue => exact iff_of_true rfl finite
    case isFalse => exact iff_of_true rfl finite
  case isFalse other =>
    split
    case isTrue => exact iff_of_false nofun other
    case isFalse => exact iff_of_false nofun other

/-- A finite double is unpacked into its parts. -/
lemma unpack_of_finite (finite : x.isFinite) : x.toModel.unpack = (ofFloat x).unpacked := by
  rw [unpack_eq, if_pos (isFinite_iff.1 finite)]

/-- A double is finite just if it is neither infinite nor no number. -/
lemma isFinite_eq (x : Float) : x.isFinite = (!x.isNaN && !x.isInf) := by
  rw [Float.isFinite, Float.isNaN, Float.isInf, Float.Model.isFinite, Float.Model.isNaN,
    Float.Model.isInf]
  cases x.toModel.unpack <;> rfl

/-! ## Values -/

/-- Parts that can be those of a double have the bits of the double nearest to their magnitude. -/
lemma bitsOf_value {m : ℕ} {e : ℤ} (canonical : Canonical m e) (some : 0 < m) :
    bitsOf (m * 2 ^ e) = min (m + (e + 1074).toNat * 2 ^ 52) (2047 * 2 ^ 52) := by
  obtain ⟨short, least, full⟩ := canonical
  have scale : (2 : ℚ) ^ e ≠ 0 := zpow_ne_zero _ (by norm_num)
  have own : (m : ℚ) * 2 ^ e / 2 ^ e = m := mul_div_cancel_right₀ _ scale
  have log : Int.log 2 ((m : ℚ) * 2 ^ e) = m.log2 + e :=
    log_of_bounds some own.ge (own.trans_lt (lt_add_one _))
  have digits := (Nat.log2_lt some.ne').2 short
  have place : quantum (m * 2 ^ e) = e := by
    rw [quantum, log]
    rcases full with full | rfl
    · have digits' := (Nat.le_log2 some.ne').2 full
      omega
    · omega
  rw [bitsOf, place, own, nearest_natCast]

/-- A double that has the bits of a number with the parts of a finite double has these parts. -/
lemma ofFloat_of_bitsOf {m : ℕ} {e : ℤ} (canonical : Canonical m e) (some : 0 < m)
    (finite : m + (e + 1074).toNat * 2 ^ 52 < 2047 * 2 ^ 52)
    (bits : x.toBits.toNat = bitsOf (m * 2 ^ e)) : ofFloat x = ⟨false, m, e⟩ := by
  have own := ofBits_bits (b := ⟨false, m, e⟩) canonical finite
  rw [bits_of_plus rfl] at own
  rw [ofFloat_eq, bits, bitsOf_value canonical some, min_eq_left finite.le]
  exact own

/-- A finite double without a sign is nearest to its own magnitude. -/
lemma toNat_toBits_eq (finite : x.isFinite) (plus : (ofFloat x).negative = false)
    (some : 0 < (ofFloat x).significand) : x.toBits.toNat = bitsOf (ofFloat x).value := by
  rw [value, bitsOf_value (canonical_ofFloat x) some, ← bits_ofFloat, bits_of_plus plus]
  exact (min_eq_left (isFinite_iff.1 finite).le).symm

/-! ## The sign -/

/-- The parts with the other sign. -/
def flip (b : Binary) : Binary :=
  { b with negative := !b.negative }

/-- Finite parts are packed into their bits. -/
lemma toNat_pack_unpacked {b : Binary} (canonical : Canonical b.significand b.scale)
    (finite : b.magnitudeBits < 2047 * 2 ^ 52) :
    (UnpackedFloat.pack Format.binary64 b.unpacked).toNat = b.bits := by
  rw [unpacked, bits]
  split
  case isTrue none =>
    rw [magnitudeBits_of_zero canonical none, UnpackedFloat.pack, packedZero, toNat_packComponents]
    simp
  case isFalse some =>
    rw [toNat_pack canonical]
    exact congrArg _ (min_eq_left finite.le)

/-- Arithmetic takes the other sign as well. -/
lemma unpacked_flip (b : Binary) : b.flip.unpacked = b.unpacked.neg := by
  have sign : b.flip.sign = -b.sign := by
    rw [Binary.sign, Binary.sign, flip]
    cases b.negative with
    | true => rfl
    | false => rfl
  rw [unpacked, unpacked, sign]
  change (if h : b.significand = 0 then _ else _) = _
  by_cases none : b.significand = 0
  · rw [dif_pos none, dif_pos none, UnpackedFloat.neg]
  · rw [dif_neg none, dif_neg none, UnpackedFloat.neg]
    rfl

/-- The opposite of a finite double has the other sign. -/
lemma ofFloat_neg (finite : x.isFinite) : ofFloat (-x) = (ofFloat x).flip := by
  have canonical := canonical_ofFloat x
  have bound := isFinite_iff.1 finite
  have own : (-x).toBits.toNat =
      (UnpackedFloat.pack Format.binary64 x.toModel.unpack.neg).toNat := rfl
  rw [unpack_of_finite finite, ← unpacked_flip,
    toNat_pack_unpacked (b := (ofFloat x).flip) canonical bound] at own
  rw [ofFloat_eq, own]
  exact ofBits_bits canonical bound

/-- The opposite of the opposite is the double. -/
lemma neg_neg_of_finite (finite : x.isFinite) : - -x = x := by
  have flipped := ofFloat_neg finite
  have finite' : (-x).isFinite := by
    rw [isFinite_iff, flipped]
    exact isFinite_iff.1 finite
  refine eq_of_ofFloat ?_
  rw [ofFloat_neg finite', flipped, flip, flip, Bool.not_not]

end Binary

end Inspection
