import Inspection.Proofs.Double.Parts

/-!
# Products and quotients of doubles

A product and a quotient are rounded from their exact values (`toNat_pack_mul`, `toNat_pack_div`),
and so is a whole number (`toNat_pack_round`). Whole numbers of no more digits than a double has and
the small powers of ten are held exactly (`normal_toFloat`, `normal_power`).
-/

namespace Inspection

open Float.Model Float.Model.UnpackedFloat Double

namespace Double

/-! ## Products and quotients -/

lemma tells_exact (m : ℕ) : Tells (.ofMantissaAndAccuracy m .exact) m := rfl

/-- A product is rounded from its exact value, if its factors have enough digits. -/
lemma toNat_pack_mul {m₁ m₂ : ℕ} {e₁ e₂ : ℤ} (some₁ : 0 < m₁) (some₂ : 0 < m₂)
    (enough : 2 ^ 52 ≤ m₁ * m₂) :
    (UnpackedFloat.pack Format.binary64 (mul Format.binary64 (.finite .positive m₁ e₁ some₁)
      (.finite .positive m₂ e₂ some₂))).toNat = bitsOf (m₁ * 2 ^ e₁ * (m₂ * 2 ^ e₂)) := by
  have two : (2 : ℚ) ≠ 0 := by norm_num
  have scale : (0 : ℚ) < 2 ^ (e₁ + e₂) := zpow_pos (by norm_num) _
  have exact : (m₁ * 2 ^ e₁ * (m₂ * 2 ^ e₂) : ℚ) = (m₁ * m₂ : ℕ) * 2 ^ (e₁ + e₂) := by
    rw [zpow_add₀ two]
    push_cast
    ring
  rw [exact]
  have positive : (0 : ℚ) < (m₁ * m₂ : ℕ) * 2 ^ (e₁ + e₂) :=
    mul_pos (by exact_mod_cast Nat.mul_pos some₁ some₂) scale
  have place : e₁ + e₂ ≤ quantum ((m₁ * m₂ : ℕ) * 2 ^ (e₁ + e₂)) := by
    refine le_quantum positive ?_
    rw [add_comm, zpow_add₀ two]
    exact mul_le_mul_of_nonneg_right (by exact_mod_cast enough) scale.le
  have tells : Tells (.ofMantissaAndAccuracy (m₁ * m₂) .exact)
      (((m₁ * m₂ : ℕ) * 2 ^ (e₁ + e₂) : ℚ) / 2 ^ (e₁ + e₂)) := by
    rw [mul_div_cancel_right₀ _ scale.ne']
    exact tells_exact _
  rw [← toNat_pack_carried positive, ← roundWithAccuracy_eq positive tells place]
  rfl

/-- A quotient of whole numbers with its remainder tells of the exact quotient. -/
lemma tells_quotient (n : ℕ) {d : ℕ} (some : 0 < d) :
    Tells (.ofMantissaAndAccuracy (n / d) (accuracyOfFraction (n % d) d)) (n / d) := by
  have positive : (0 : ℚ) < d := by exact_mod_cast some
  have exact : (n : ℚ) / d = (n / d : ℕ) + (n % d : ℕ) / d := by
    have parts : (n : ℚ) = d * (n / d : ℕ) + (n % d : ℕ) := by
      exact_mod_cast (Nat.div_add_mod n d).symm
    rw [parts, add_div, mul_div_cancel_left₀ _ positive.ne']
  have below : ((n % d : ℕ) : ℚ) < d := by exact_mod_cast Nat.mod_lt n some
  rw [exact, accuracyOfFraction]
  generalize n / d = w
  generalize n % d = r at below
  split_ifs with none
  · subst none
    simp [ExtendedMantissa.ofMantissaAndAccuracy, Tells]
  · have more : (0 : ℚ) < r / d := div_pos (by exact_mod_cast Nat.pos_of_ne_zero none) positive
    have less : (r : ℚ) / d < 1 := (div_lt_one positive).2 below
    rcases lt_trichotomy (2 * r) d with under | half | above
    · have half : (r : ℚ) / d < 1 / 2 := by
        rw [div_lt_div_iff₀ positive (by norm_num)]
        exact_mod_cast (by omega : r * 2 < 1 * d)
      rw [Nat.compare_eq_lt.2 under]
      change (w : ℚ) < w + r / d ∧ w + r / d < (w : ℚ) + 1 / 2
      exact ⟨by linarith, by linarith⟩
    · have half' : (r : ℚ) / d = 1 / 2 := by
        rw [div_eq_div_iff positive.ne' (by norm_num)]
        exact_mod_cast (by omega : r * 2 = 1 * d)
      rw [Nat.compare_eq_eq.2 half, half']
      rfl
    · have half : 1 / 2 < (r : ℚ) / d := by
        rw [div_lt_div_iff₀ (by norm_num) positive]
        exact_mod_cast (by omega : 1 * d < r * 2)
      rw [Nat.compare_eq_gt.2 above]
      change (w : ℚ) + 1 / 2 < w + r / d ∧ w + r / d < (w : ℚ) + 1
      exact ⟨by linarith, by linarith⟩

/-- A quotient has its first digit no further down than one place below what the logarithms of its
parts say. -/
lemma le_log_quotient {m₁ m₂ : ℕ} (some₁ : 0 < m₁) (some₂ : 0 < m₂) (e₁ e₂ : ℤ) :
    m₁.log2 + e₁ - (m₂.log2 + 1 + e₂) ≤ Int.log 2 (m₁ * 2 ^ e₁ / (m₂ * 2 ^ e₂) : ℚ) := by
  have two : (2 : ℚ) ≠ 0 := by norm_num
  have scale (e : ℤ) : (0 : ℚ) < 2 ^ e := zpow_pos (by norm_num) e
  have first : (0 : ℚ) < m₁ * 2 ^ e₁ := mul_pos (by exact_mod_cast some₁) (scale e₁)
  have second : (0 : ℚ) < m₂ * 2 ^ e₂ := mul_pos (by exact_mod_cast some₂) (scale e₂)
  refine (Int.zpow_le_iff_le_log (by decide) (div_pos first second)).1 ?_
  rw [Nat.cast_ofNat, zpow_sub₀ two, zpow_add₀ two, zpow_add₀ two]
  refine div_le_div₀ first.le ?_ second ?_
  · refine mul_le_mul_of_nonneg_right ?_ (scale e₁).le
    exact_mod_cast Nat.log2_self_le some₁.ne'
  · refine mul_le_mul_of_nonneg_right ?_ (scale e₂).le
    exact_mod_cast (Nat.lt_log2_self (n := m₂)).le

/-- The quotient of two significands, the first one shifted, tells of the exact quotient. -/
lemma tells_shifted_quotient (m₁ : ℕ) {m₂ : ℕ} {e₁ e₂ t : ℤ} (some₂ : 0 < m₂)
    (below : t ≤ e₁ - e₂) :
    Tells (.ofMantissaAndAccuracy ((m₁ <<< (e₁ - e₂ - t).toNat) / m₂)
      (accuracyOfFraction ((m₁ <<< (e₁ - e₂ - t).toNat) % m₂) m₂))
      (m₁ * 2 ^ e₁ / (m₂ * 2 ^ e₂) / 2 ^ t) := by
  have two : (2 : ℚ) ≠ 0 := by norm_num
  have shift : ((e₁ - e₂ - t).toNat : ℤ) = e₁ - e₂ - t := by omega
  have scale (e : ℤ) : (2 : ℚ) ^ e ≠ 0 := zpow_ne_zero e two
  have exact : (m₁ * 2 ^ e₁ / (m₂ * 2 ^ e₂) / 2 ^ t : ℚ) =
      ((m₁ <<< (e₁ - e₂ - t).toNat : ℕ) : ℚ) / m₂ := by
    rw [Nat.shiftLeft_eq, Nat.cast_mul, Nat.cast_pow, Nat.cast_ofNat, ← zpow_natCast, shift,
      zpow_sub₀ two, zpow_sub₀ two]
    field_simp
  rw [exact]
  exact tells_quotient _ some₂

/-- A quotient is rounded from its exact value. -/
lemma toNat_pack_div {m₁ m₂ : ℕ} {e₁ e₂ : ℤ} (some₁ : 0 < m₁) (some₂ : 0 < m₂) :
    (UnpackedFloat.pack Format.binary64 (div Format.binary64 (.finite .positive m₁ e₁ some₁)
      (.finite .positive m₂ e₂ some₂))).toNat = bitsOf (m₁ * 2 ^ e₁ / (m₂ * 2 ^ e₂)) := by
  have scale (e : ℤ) : (0 : ℚ) < 2 ^ e := zpow_pos (by norm_num) e
  have positive : (0 : ℚ) < m₁ * 2 ^ e₁ / (m₂ * 2 ^ e₂) :=
    div_pos (mul_pos (by exact_mod_cast some₁) (scale e₁))
      (mul_pos (by exact_mod_cast some₂) (scale e₂))
  generalize target : min (e₁ - e₂)
    (Format.binary64.targetExponent (totalExponent m₁ e₁ - totalExponent m₂ e₂)) = t
  have place : t ≤ quantum (m₁ * 2 ^ e₁ / (m₂ * 2 ^ e₂)) := by
    have log := le_log_quotient some₁ some₂ e₁ e₂
    rw [targetExponent_eq, totalExponent, totalExponent] at target
    rw [quantum]
    omega
  have tells := @tells_shifted_quotient m₁ m₂ e₁ e₂ t some₂ (by omega)
  rw [← toNat_pack_carried positive, ← roundWithAccuracy_eq positive tells place, ← target]
  rfl

/-! ## Small factors -/

/-- A finite double without a sign that has all its digits. -/
structure Normal (x : Float) : Prop where
  finite : x.isFinite
  plus : (Binary.ofFloat x).negative = false
  full : 2 ^ 52 ≤ (Binary.ofFloat x).significand

section

variable {x y : Float}

/-- A normal double is unpacked into its parts. -/
lemma Normal.unpack (normal : Normal x) : ∃ some, x.toModel.unpack =
    .finite .positive (Binary.ofFloat x).significand (Binary.ofFloat x).scale some := by
  have some : 0 < (Binary.ofFloat x).significand := lt_of_lt_of_le (by decide) normal.full
  refine ⟨some, ?_⟩
  rw [Binary.unpack_of_finite normal.finite, Binary.unpacked, dif_neg some.ne', Binary.sign,
    normal.plus]
  rfl

/-- The product of normal doubles is rounded from its exact value. -/
lemma Normal.toNat_toBits_mul (first : Normal x) (second : Normal y) : (x * y).toBits.toNat =
    bitsOf ((Binary.ofFloat x).value * (Binary.ofFloat y).value) := by
  obtain ⟨some₁, e₁⟩ := first.unpack
  obtain ⟨some₂, e₂⟩ := second.unpack
  have enough := Nat.mul_le_mul first.full second.full
  have own : (x * y).toBits.toNat = (UnpackedFloat.pack Format.binary64
      (mul Format.binary64 x.toModel.unpack y.toModel.unpack)).toNat := rfl
  rw [own, e₁, e₂, toNat_pack_mul _ _ (le_trans (by decide) enough)]
  rfl

/-- The quotient of normal doubles is rounded from its exact value. -/
lemma Normal.toNat_toBits_div (first : Normal x) (second : Normal y) : (x / y).toBits.toNat =
    bitsOf ((Binary.ofFloat x).value / (Binary.ofFloat y).value) := by
  obtain ⟨some₁, e₁⟩ := first.unpack
  obtain ⟨some₂, e₂⟩ := second.unpack
  have own : (x / y).toBits.toNat = (UnpackedFloat.pack Format.binary64
      (div Format.binary64 x.toModel.unpack y.toModel.unpack)).toNat := rfl
  rw [own, e₁, e₂, toNat_pack_div]
  rfl

end

/-- A whole number that is positive is rounded from its exact value. -/
lemma toNat_pack_round {m : ℕ} (some : 0 < m) (e : ℤ) :
    (UnpackedFloat.pack Format.binary64 (round Format.binary64 .positive m e)).toNat =
      bitsOf (m * 2 ^ e) := by
  generalize target : Format.binary64.targetExponent (totalExponent m e) = t
  have two : (2 : ℚ) ≠ 0 := by norm_num
  have scale (e : ℤ) : (0 : ℚ) < 2 ^ e := zpow_pos (by norm_num) e
  have positive : (0 : ℚ) < m * 2 ^ e := mul_pos (by exact_mod_cast some) (scale e)
  have log : Int.log 2 (m * 2 ^ e : ℚ) = m.log2 + e := by
    have own : (m : ℚ) * 2 ^ e / 2 ^ e = m := mul_div_cancel_right₀ _ (scale e).ne'
    exact log_of_bounds some own.ge (own.trans_lt (lt_add_one _))
  have place : e - (e - t).toNat ≤ quantum (m * 2 ^ e) := by
    rw [targetExponent_eq, totalExponent] at target
    rw [quantum, log]
    omega
  have exact : (m * 2 ^ e : ℚ) / 2 ^ (e - (e - t).toNat) = (m <<< (e - t).toNat : ℕ) := by
    rw [Nat.shiftLeft_eq, zpow_sub₀ two, zpow_natCast, Nat.cast_mul, Nat.cast_pow, Nat.cast_ofNat]
    have := (scale e).ne'
    field_simp
  have tells : Tells (.ofMantissaAndAccuracy (m <<< (e - t).toNat) .exact)
      (m * 2 ^ e / 2 ^ (e - (e - t).toNat)) := by
    rw [exact]
    exact tells_exact _
  rw [← toNat_pack_carried positive, ← roundWithAccuracy_eq positive tells place, ← target]
  rfl

/-- A word is read as the double nearest to it. -/
lemma toNat_toBits_toFloat {n : ℕ} (some : 0 < n) (short : n < 2 ^ 64) :
    n.toUInt64.toFloat.toBits.toNat = bitsOf n := by
  have own : n.toUInt64.toFloat.toBits.toNat = (UnpackedFloat.pack Format.binary64
    (UnpackedFloat.normalize Format.binary64 (n.toUInt64.toNat : ℤ) 0 .positive)).toNat := rfl
  have same : n.toUInt64.toNat = n := Nat.mod_eq_of_lt short
  have order : compare (n : ℤ) 0 = .gt := by
    rw [Int.compare_eq_gt]
    omega
  rw [own, same, UnpackedFloat.normalize, order]
  have exact := toNat_pack_round some 0
  rw [zpow_zero, mul_one] at exact
  exact exact

/-- A whole number of no more digits than a double has is the value of a normal one. -/
lemma normal_toFloat {n : ℕ} (some : 0 < n) (short : n < 2 ^ 53) :
    Normal n.toUInt64.toFloat ∧ (Binary.ofFloat n.toUInt64.toFloat).value = n := by
  have digits : n.log2 ≤ 52 := by
    have below := (Nat.log2_lt some.ne').2 short
    omega
  -- the number is shifted until it has all the digits of a double
  have value : (n : ℚ) = (n * 2 ^ (52 - n.log2) : ℕ) * 2 ^ (-(52 - n.log2 : ℕ) : ℤ) := by
    rw [Nat.cast_mul, Nat.cast_pow, Nat.cast_ofNat, zpow_neg, zpow_natCast,
      mul_inv_cancel_right₀ (by positivity)]
  have full : 2 ^ 52 ≤ n * 2 ^ (52 - n.log2) :=
    calc 2 ^ 52 = 2 ^ n.log2 * 2 ^ (52 - n.log2) := by rw [← pow_add, Nat.add_sub_cancel' digits]
      _ ≤ n * 2 ^ (52 - n.log2) := Nat.mul_le_mul_right _ (Nat.log2_self_le some.ne')
  have fits : n * 2 ^ (52 - n.log2) < 2 ^ 53 :=
    calc n * 2 ^ (52 - n.log2) < 2 ^ (n.log2 + 1) * 2 ^ (52 - n.log2) :=
          Nat.mul_lt_mul_of_pos_right Nat.lt_log2_self (by positivity)
      _ = 2 ^ 53 := by
          rw [← pow_add]
          congr 1
          omega
  have bits := toNat_toBits_toFloat some (by omega)
  rw [value] at bits
  have parts := Binary.ofFloat_of_bitsOf ⟨fits, by omega, .inl full⟩ (by omega) (by omega) bits
  refine ⟨⟨?_, ?_, ?_⟩, ?_⟩
  · rw [Binary.isFinite_iff, parts]
    simp only [Binary.magnitudeBits]
    omega
  · rw [parts]
  · rw [parts]
    exact full
  · rw [parts]
    exact value.symm

/-- The powers of ten that doubles hold exactly. -/
lemma normal_power (e : Fin 23) :
    Normal Float.exactlyRepresentablePowersOfTen[e] ∧
      (Binary.ofFloat Float.exactlyRepresentablePowersOfTen[e]).value = 10 ^ (e : ℕ) := by
  have table : ∀ e : Fin 23, Float.exactlyRepresentablePowersOfTen[e].isFinite ∧
      (Binary.ofFloat Float.exactlyRepresentablePowersOfTen[e]).negative = false ∧
      2 ^ 52 ≤ (Binary.ofFloat Float.exactlyRepresentablePowersOfTen[e]).significand ∧
      (Binary.ofFloat Float.exactlyRepresentablePowersOfTen[e]).numerator =
        10 ^ (e : ℕ) * (Binary.ofFloat Float.exactlyRepresentablePowersOfTen[e]).denominator := by
    decide +kernel
  obtain ⟨finite, plus, full, value⟩ := table e
  refine ⟨⟨finite, plus, full⟩, ?_⟩
  rw [Binary.value_eq, value, Nat.cast_mul, mul_div_assoc, div_self, mul_one]
  · exact_mod_cast rfl
  · exact Nat.cast_ne_zero.2 (Nat.two_pow_pos _).ne'

end Double

end Inspection
