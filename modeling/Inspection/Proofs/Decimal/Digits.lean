import Inspection.Proofs.Decimal.Nearest
import Inspection.Proofs.Decimal.Order
import Inspection.Proofs.Double.Order

/-!
# Digits and order of shortest decimals

The leading digit of a magnitude is found where it is (`le_leadingExponent`,
`lt_leadingExponent_add_one`). The nearest decimal on the grid with 17 digits differs from the
magnitude by too little to be read as another double, so the shortest decimal of a finite double has
no more than 17 significant digits (`fits_ofFloat`). Each shortest decimal is nearest to its own
double, and larger numbers are nearest to larger doubles. So shortest decimals are ordered as the
doubles that they are written for (`value_ofFloat_le_iff`).
-/

namespace Inspection.Decimal

open Double

-- powers of whole numbers are those of the core library, as in the definitions
attribute [local instance (high)] instPowNat

variable {x : Float} {num den : ℕ}

/-! ## Grids -/

/-- The quotient on a grid is the quotient in units of this grid. -/
lemma onGrid_eq (num : ℕ) (some : 0 < den) (e : ℤ) : 0 < (onGrid num den e).2 ∧
    ((onGrid num den e).1 : ℚ) / (onGrid num den e).2 = num / den / 10 ^ e := by
  refine ⟨Nat.mul_pos some (Nat.pow_pos (by decide)), ?_⟩
  change ((num * 10 ^ (-e).toNat : ℕ) : ℚ) / ((den * 10 ^ e.toNat : ℕ) : ℚ) = _
  have den' : (den : ℚ) ≠ 0 := Nat.cast_ne_zero.2 some.ne'
  rw [Nat.cast_mul, Nat.cast_mul, Nat.cast_pow, Nat.cast_pow, Nat.cast_ofNat]
  rcases le_total 0 e with whole | fraction
  · rw [Int.toNat_of_nonpos (neg_nonpos.2 whole), pow_zero, mul_one, ← zpow_natCast,
      Int.toNat_of_nonneg whole, div_div]
  · rw [Int.toNat_of_nonpos fraction, pow_zero, mul_one, ← zpow_natCast,
      Int.toNat_of_nonneg (neg_nonneg.2 fraction), zpow_neg]
    have scale : (10 : ℚ) ^ e ≠ 0 := zpow_ne_zero _ (by norm_num)
    field_simp

lemma reaches_iff (some : 0 < den) (e : ℤ) :
    reaches num den e = true ↔ (10 : ℚ) ^ e ≤ num / den := by
  obtain ⟨unit, own⟩ := onGrid_eq num some e
  have scale : (0 : ℚ) < 10 ^ e := zpow_pos (by norm_num) e
  rw [← one_le_div scale, ← own, one_le_div (by exact_mod_cast unit), Nat.cast_le]
  exact decide_eq_true_iff

/-! ## Powers of ten among those of two -/

/-- Ten is about the power of two with the exponent 196 / 59, which is a little more, and 93 / 28,
which is a little less. -/
lemma ten_zpow_le_two_zpow {a b : ℤ}
    (below : 0 ≤ a ∧ 196 * a ≤ 59 * b ∨ a ≤ 0 ∧ 93 * a ≤ 28 * b) : (10 : ℚ) ^ a ≤ 2 ^ b := by
  have raise (x : ℚ) (c : ℤ) (n : ℕ) : (x ^ c) ^ n = (x ^ n) ^ c := by
    rw [← zpow_natCast, ← zpow_natCast, ← zpow_mul, ← zpow_mul, mul_comm]
  have scale (x : ℚ) (n : ℕ) (c : ℤ) : (x ^ n) ^ c = x ^ (n * c) := by
    rw [← zpow_natCast, ← zpow_mul]
  rcases below with ⟨nonneg, below⟩ | ⟨nonpos, below⟩
  · refine le_of_pow_le_pow_left₀ (by decide : 59 ≠ 0) (zpow_nonneg (by norm_num) _) ?_
    calc ((10 : ℚ) ^ a) ^ 59 = (10 ^ 59) ^ a := raise _ _ _
      _ ≤ (2 ^ 196) ^ a := zpow_le_zpow_left₀ nonneg (by norm_num) (by norm_num)
      _ = 2 ^ (196 * a) := scale _ _ _
      _ ≤ 2 ^ (59 * b) := zpow_le_zpow_right₀ (by norm_num) below
      _ = (2 ^ 59) ^ b := (scale _ _ _).symm
      _ = (2 ^ b) ^ 59 := (raise _ _ _).symm
  · have opposite := inv_anti₀ (zpow_pos (by norm_num) _) (zpow_le_zpow_left₀ (neg_nonneg.2 nonpos)
      (by norm_num) (by norm_num : (2 : ℚ) ^ 93 ≤ 10 ^ 28))
    rw [zpow_neg, zpow_neg, inv_inv, inv_inv] at opposite
    refine le_of_pow_le_pow_left₀ (by decide : 28 ≠ 0) (zpow_nonneg (by norm_num) _) ?_
    calc ((10 : ℚ) ^ a) ^ 28 = (10 ^ 28) ^ a := raise _ _ _
      _ ≤ (2 ^ 93) ^ a := opposite
      _ = 2 ^ (93 * a) := scale _ _ _
      _ ≤ 2 ^ (28 * b) := zpow_le_zpow_right₀ (by norm_num) below
      _ = (2 ^ 28) ^ b := (scale _ _ _).symm
      _ = (2 ^ b) ^ 28 := (raise _ _ _).symm

lemma two_zpow_le_ten_zpow {a b : ℤ}
    (above : 0 ≤ a ∧ 28 * b ≤ 93 * a ∨ a ≤ 0 ∧ 59 * b ≤ 196 * a) : (2 : ℚ) ^ b ≤ 10 ^ a := by
  have opposite : (10 : ℚ) ^ (-a) ≤ 2 ^ (-b) := ten_zpow_le_two_zpow (by omega)
  rw [zpow_neg, zpow_neg] at opposite
  exact (inv_le_inv₀ (zpow_pos (by norm_num) _) (zpow_pos (by norm_num) _)).1 opposite

/-! ## The leading digit -/

variable {q : ℚ}

/-- The leading digit of a positive quotient that is not too large or too small stands where it is
said to. -/
lemma leadingExponent_bounds (some : 0 < den) (positive : 0 < (num / den : ℚ))
    (binary : (num.log2 : ℤ) - den.log2 = Int.log 2 (num / den : ℚ))
    (range : |Int.log 2 (num / den : ℚ)| ≤ 2000) :
    (10 : ℚ) ^ leadingExponent num den ≤ num / den ∧
      (num / den : ℚ) < 10 ^ (leadingExponent num den + 1) := by
  obtain ⟨least, greatest⟩ := abs_le.1 range
  have low : (2 : ℚ) ^ Int.log 2 (num / den : ℚ) ≤ num / den :=
    Int.zpow_log_le_self (by decide) positive
  have high : (num / den : ℚ) < 2 ^ (Int.log 2 (num / den : ℚ) + 1) :=
    Int.lt_zpow_succ_log_self (by decide) _
  unfold leadingExponent
  dsimp only
  rw [binary]
  generalize Int.log 2 (num / den : ℚ) = b at *
  obtain ⟨estimate, own⟩ : ∃ e, b * 30103 / 100000 = e := ⟨_, rfl⟩
  rw [own]
  split_ifs with more enough
  · refine ⟨(reaches_iff some _).1 more, high.trans_le (two_zpow_le_ten_zpow ?_)⟩
    omega
  · rw [reaches_iff some] at more enough
    exact ⟨enough, not_le.1 more⟩
  · rw [reaches_iff some] at enough
    refine ⟨(ten_zpow_le_two_zpow ?_).trans low, ?_⟩
    · omega
    · rw [sub_add_cancel]
      exact not_le.1 enough

/-- The binary logarithm of a magnitude is that of its significand, moved by its scale. -/
lemma log_value {b : Binary} (some : 0 < b.significand) :
    Int.log 2 b.value = b.significand.log2 + b.scale := by
  have own : b.value / 2 ^ b.scale = b.significand :=
    mul_div_cancel_right₀ _ (zpow_ne_zero _ (by norm_num))
  exact log_of_bounds some own.ge (own.trans_lt (lt_add_one _))

/-- The magnitude of a finite double lies between powers of two with small exponents. -/
lemma abs_log_value_le (finite : x.isFinite) (some : 0 < (Binary.ofFloat x).significand) :
    |Int.log 2 (Binary.ofFloat x).value| ≤ 2000 := by
  obtain ⟨short, least, -⟩ := Binary.canonical_ofFloat x
  have digits := (Nat.log2_lt some.ne').2 short
  have bound := Binary.isFinite_iff.1 finite
  rw [Binary.magnitudeBits] at bound
  rw [log_value some, abs_le]
  omega

/-- The logarithms of numerator and denominator tell that of the magnitude. -/
lemma log2_sub_log2 {b : Binary} (some : 0 < b.significand) :
    (b.numerator.log2 : ℤ) - b.denominator.log2 = Int.log 2 b.value := by
  have some' : 0 < b.numerator := Nat.mul_pos some (Nat.pow_pos (by decide))
  have own : b.value / 2 ^ (-((-b.scale).toNat : ℤ)) = b.numerator := by
    rw [Binary.value_eq, Binary.denominator, zpow_neg, zpow_natCast, div_inv_eq_mul, Nat.cast_pow,
      Nat.cast_ofNat]
    exact div_mul_cancel₀ _ (pow_ne_zero _ (by norm_num))
  rw [log_of_bounds some' own.ge (own.trans_lt (lt_add_one _)), Binary.denominator,
    Nat.log2_two_pow]
  rfl

/-- The exponent of the leading digit of a magnitude. -/
def leading (x : Float) : ℤ :=
  leadingExponent (Binary.ofFloat x).numerator (Binary.ofFloat x).denominator

/-- The magnitude of a finite double has its leading digit where it is said to be. -/
lemma leading_bounds (finite : x.isFinite) (some : 0 < (Binary.ofFloat x).significand) :
    (10 : ℚ) ^ leading x ≤ (Binary.ofFloat x).value ∧
      (Binary.ofFloat x).value < 10 ^ (leading x + 1) := by
  have binary := log2_sub_log2 some
  have range := abs_log_value_le finite some
  have positive : 0 < (Binary.ofFloat x).value :=
    mul_pos (by exact_mod_cast some) (zpow_pos (by norm_num) _)
  rw [Binary.value_eq] at *
  exact leadingExponent_bounds (Nat.pow_pos (by decide)) positive binary range

/-- A magnitude in units of the last of some digits is a quotient that has these digits. -/
lemma exists_onGrid (finite : x.isFinite) (positive : 0 < (Binary.ofFloat x).significand) (k : ℕ) :
    ∃ n u : ℕ, onGrid (Binary.ofFloat x).numerator (Binary.ofFloat x).denominator
        (leading x - (k + 1 : ℕ) + 1) = (n, u) ∧ 0 < u ∧
      (Binary.ofFloat x).value = n / u * 10 ^ (leading x - (k + 1 : ℕ) + 1) ∧
      10 ^ k * u ≤ n ∧ n < 10 ^ (k + 1) * u := by
  have unit : 0 < (Binary.ofFloat x).denominator := Nat.pow_pos (by decide)
  obtain ⟨low, high⟩ := leading_bounds finite positive
  obtain ⟨e, place⟩ : ∃ e, leading x - (k + 1 : ℕ) + 1 = e := ⟨_, rfl⟩
  have first : leading x = k + e := by omega
  have next : leading x + 1 = (k + 1 : ℕ) + e := by omega
  have scale : (0 : ℚ) < 10 ^ e := zpow_pos (by norm_num) e
  obtain ⟨unit', own⟩ := onGrid_eq (Binary.ofFloat x).numerator unit e
  rw [next] at high
  rw [first] at low
  rw [place]
  generalize onGrid (Binary.ofFloat x).numerator (Binary.ofFloat x).denominator e = grid at *
  obtain ⟨n, u⟩ := grid
  have unit'' : (0 : ℚ) < u := by exact_mod_cast unit'
  rw [← Binary.value_eq, eq_div_iff scale.ne'] at own
  rw [← own, zpow_add₀ (by norm_num), zpow_natCast] at low high
  rw [mul_le_mul_iff_left₀ scale, le_div_iff₀ unit''] at low
  rw [mul_lt_mul_iff_left₀ scale, div_lt_iff₀ unit''] at high
  exact ⟨n, u, rfl, unit', own.symm, by exact_mod_cast low, by exact_mod_cast high⟩

/-! ## Neighbours on a grid -/

lemma halfEven_bounds (num : ℕ) (some : 0 < den) : 2 * num ≤ 2 * (halfEven num den * den) + den ∧
    2 * (halfEven num den * den) ≤ 2 * num + den := by
  have parts : num / den * den + num % den = num := Nat.div_add_mod' num den
  have left : num % den < den := Nat.mod_lt num some
  have next : (num / den + 1) * den = num / den * den + den := Nat.succ_mul _ _
  unfold halfEven
  dsimp only
  split_ifs
  all_goals omega

/-- What is rounded to a whole number is moved by no more than a half. -/
lemma abs_halfEven_sub_le (some : 0 < den) : |(halfEven num den : ℚ) - num / den| ≤ 1 / 2 := by
  obtain ⟨low, high⟩ := halfEven_bounds num some
  have low : (2 * num : ℚ) ≤ 2 * (halfEven num den * den) + den := by exact_mod_cast low
  have high : (2 * (halfEven num den * den) : ℚ) ≤ 2 * num + den := by exact_mod_cast high
  have unit : (0 : ℚ) < den := by exact_mod_cast some
  rw [abs_le, neg_le_sub_iff_le_add, sub_le_iff_le_add', div_le_iff₀ unit, ← sub_le_iff_le_add,
    le_div_iff₀ unit]
  exact ⟨by linarith, by linarith⟩

/-- On a grid that is fine enough the nearest decimal differs from a double by too little to be read
as another one. -/
lemma toFloat_halfEven {e : ℤ} (finite : x.isFinite) (plus : (Binary.ofFloat x).negative = false)
    (some : 0 < (Binary.ofFloat x).significand) (unit : 0 < den)
    (own : (Binary.ofFloat x).value = num / den * 10 ^ e) (fine : 10 ^ 16 * den ≤ num) :
    toFloat ⟨halfEven num den, e⟩ = x := by
  have scale : (0 : ℚ) < 10 ^ e := zpow_pos (by norm_num) e
  have fine' : (10 : ℚ) ^ 16 ≤ num / den := by
    rw [le_div_iff₀ (by exact_mod_cast unit)]
    exact_mod_cast fine
  have positive : 0 < halfEven num den :=
    lt_of_lt_of_le (by norm_num) (le_halfEven unit fine)
  refine Binary.eq_of_toBits ?_
  rw [toNat_toFloat (Int.natCast_pos.2 positive), Binary.toNat_toBits_eq finite plus some,
    Binary.value]
  refine bitsOf_of_near (Binary.canonical_ofFloat x) some ?_
  rw [← Binary.value, own, value, Int.cast_natCast, ← sub_mul, abs_mul, abs_of_pos scale,
    mul_right_comm, mul_lt_mul_iff_left₀ scale]
  calc |(halfEven num den : ℚ) - num / den| * 2 ^ 54 ≤ 1 / 2 * 2 ^ 54 :=
        mul_le_mul_of_nonneg_right (abs_halfEven_sub_le unit) (by norm_num)
    _ < 10 ^ 16 := by norm_num
    _ ≤ num / den := fine'

/-- A mantissa that was rounded up to one digit more ends with zeros. -/
lemma fits_of_le {m digits : ℕ} (enough : 0 < digits) (le : m ≤ 10 ^ digits) (e : ℤ) :
    Fits digits (value ⟨m, e⟩) := by
  rcases le.lt_or_eq with less | rfl
  · exact ⟨m, e, by rw [Nat.abs_cast]; exact_mod_cast less, rfl⟩
  · refine ⟨1, e + digits, by rw [abs_one]; exact one_lt_pow₀ (by norm_num) enough.ne', ?_⟩
    rw [value, zpow_add₀ (by norm_num), zpow_natCast, Int.cast_natCast, Nat.cast_pow]
    push_cast
    ring

/-- What a grid holds has no more digits than the grid. -/
lemma fits_neighbour? {n u digits : ℕ} {e : ℤ} {d : Decimal} (grid : onGrid num den e = (n, u))
    (unit : 0 < u) (enough : 0 < digits) (small : n < 10 ^ digits * u)
    (found : neighbour? x num den e = some d) : Fits digits d.value := by
  have whole := (Nat.div_lt_iff_lt_mul unit).2 small
  unfold neighbour? at found
  rw [grid] at found
  dsimp only at found
  split_ifs at found
  · cases found
    exact fits_of_le enough (halfEven_le unit small.le) e
  · cases found
    exact fits_of_le enough whole.le e
  · cases found
    exact fits_of_le enough whole e

/-- A grid holds a decimal if a neighbour of the quotient is read as the double. -/
lemma exists_neighbour? {n u : ℕ} {e : ℤ} (grid : onGrid num den e = (n, u))
    (reads : toFloat ⟨halfEven n u, e⟩ = x ∨ toFloat ⟨(n / u : ℕ), e⟩ = x ∨
      toFloat ⟨(n / u : ℕ) + 1, e⟩ = x) : ∃ d, neighbour? x num den e = some d := by
  unfold neighbour?
  rw [grid]
  dsimp only
  split_ifs with near low high
  · exact ⟨_, rfl⟩
  · exact ⟨_, rfl⟩
  · exact ⟨_, rfl⟩
  · exact absurd reads (not_or.2 ⟨near, not_or.2 ⟨low, high⟩⟩)

/-- The first grid that holds a decimal is no further on than any other that does. -/
lemma exists_shortestFrom {first : ℤ} {digits k : ℕ} (count : ℕ) {d : Decimal}
    (found : neighbour? x num den (first - k + 1) = some d) (low : digits ≤ k)
    (high : k < digits + count) : ∃ j d', digits ≤ j ∧ j ≤ k ∧
      shortestFrom x num den first count digits = some d' ∧
      neighbour? x num den (first - j + 1) = some d' := by
  induction count generalizing digits with
  | zero => omega
  | succ count ih =>
    rw [shortestFrom]
    split
    case h_1 d' own => exact ⟨digits, d', le_rfl, low, rfl, own⟩
    case h_2 none =>
      have later : digits ≠ k := by
        rintro rfl
        rw [none] at found
        cases found
      obtain ⟨j, d', low', high', taken, own⟩ := @ih (digits + 1) (by omega) (by omega)
      exact ⟨j, d', by omega, high', taken, own⟩

/-- The shortest decimal is what the first grid holds. -/
lemma value_shortest {d : Decimal} (positive : 0 < (Binary.ofFloat x).significand)
    (found : shortestFrom x (Binary.ofFloat x).numerator (Binary.ofFloat x).denominator (leading x)
      17 1 = some d) : (shortest x).value = d.value := by
  unfold shortest
  dsimp only
  split
  case isTrue zero => exact absurd zero positive.ne'
  case isFalse =>
    split
    case h_1 d' own =>
      obtain rfl : d' = d := Option.some.inj (own.symm.trans found)
      obtain ⟨nonneg, -⟩ := toFloat_shortestFrom own
      rw [value_stripZeros, Int.natCast_natAbs, abs_of_nonneg nonneg]
    case h_2 none => exact absurd (none.symm.trans found) nofun

/-- If a grid holds a decimal, the shortest one has no more digits than the grid. -/
lemma fits_shortest_of_neighbour? {k : ℕ} {d : Decimal} (finite : x.isFinite)
    (positive : 0 < (Binary.ofFloat x).significand) (few : k + 1 ≤ 17)
    (found : neighbour? x (Binary.ofFloat x).numerator (Binary.ofFloat x).denominator
      (leading x - (k + 1 : ℕ) + 1) = some d) : Fits (k + 1) (shortest x).value := by
  obtain ⟨j, d', low, high, taken, own⟩ :=
    exists_shortestFrom 17 found (Nat.le_add_left 1 k) (by omega)
  obtain ⟨i, rfl⟩ := Nat.exists_eq_add_of_le' low
  obtain ⟨n, u, grid, unit, -, -, short⟩ := exists_onGrid finite positive i
  rw [value_shortest positive taken]
  exact (fits_neighbour? grid unit low short own).mono high

/-- The shortest decimal of a finite magnitude has no more than 17 significant digits. -/
theorem fits_shortest (finite : x.isFinite) (plus : (Binary.ofFloat x).negative = false) :
    Fits 17 (shortest x).value := by
  rcases (Binary.ofFloat x).significand.eq_zero_or_pos with zero | positive
  · rw [shortest_of_zero zero]
    exact fits_of_le (by decide) (Nat.zero_le _) 0
  · obtain ⟨n, u, grid, unit, own, full, -⟩ := exists_onGrid finite positive 16
    obtain ⟨d, found⟩ := exists_neighbour? grid
      (.inl (toFloat_halfEven finite plus positive unit own full))
    exact fits_shortest_of_neighbour? finite positive le_rfl found

/-! ## No fewer digits -/

/-- What lies between two numbers that are read as a double is read as it. -/
lemma toFloat_of_between {p q : ℚ} {d : Decimal} (positive : 0 < p) (least : p ≤ d.value)
    (greatest : d.value ≤ q) (low : bitsOf p = x.toBits.toNat) (high : bitsOf q = x.toBits.toNat) :
    d.toFloat = x := by
  have some : 0 < d.mantissa := by
    have product := positive.trans_le least
    rw [value] at product
    exact_mod_cast (mul_pos_iff_of_pos_right (zpow_pos (by norm_num) _)).1 product
  refine Binary.eq_of_toBits ?_
  rw [toNat_toFloat some]
  refine le_antisymm ?_ ?_
  · rw [← high]
    exact bitsOf_mono (positive.trans_le least) greatest
  · rw [← low]
    exact bitsOf_mono positive least

/-- A grid on which some decimal that is read as the double could be written holds one. -/
lemma exists_neighbour?_of_fits {q : ℚ} {k : ℕ} (finite : x.isFinite)
    (plus : (Binary.ofFloat x).negative = false) (positive : 0 < (Binary.ofFloat x).significand)
    (some : 0 < q) (reads : bitsOf q = x.toBits.toNat) (fits : Fits (k + 1) q) :
    ∃ d, neighbour? x (Binary.ofFloat x).numerator (Binary.ofFloat x).denominator
      (leading x - (k + 1 : ℕ) + 1) = .some d := by
  obtain ⟨n, u, grid, unit, own, full, -⟩ := exists_onGrid finite positive k
  have bits := Binary.toNat_toBits_eq finite plus positive
  rw [own] at bits
  refine exists_neighbour? grid (.inr ?_)
  generalize leading x - (k + 1 : ℕ) + 1 = e at *
  have scale : (0 : ℚ) < 10 ^ e := zpow_pos (by norm_num) e
  have floor : (10 : ℚ) ^ k ≤ (n / u : ℕ) := by
    exact_mod_cast (Nat.le_div_iff_mul_le unit).2 full
  have low : ((n / u : ℕ) : ℚ) ≤ n / u := Nat.cast_div_le
  have high : (n / u : ℚ) ≤ (n / u : ℕ) + 1 := by
    rw [div_le_iff₀ (by exact_mod_cast unit)]
    exact_mod_cast (Nat.lt_mul_of_div_lt (Nat.lt_succ_self (n / u)) unit).le
  have near : q ≤ (n / u : ℕ) * 10 ^ e ∨ ((n / u : ℕ) + 1) * 10 ^ e ≤ q := by
    rcases fits.grid e with ⟨m, rfl⟩ | small
    · rw [mul_le_mul_iff_left₀ scale, mul_le_mul_iff_left₀ scale]
      have sides : (m : ℚ) ≤ ((n / u : ℕ) : ℤ) ∨ (((n / u : ℕ) + 1 : ℤ) : ℚ) ≤ m :=
        (le_or_gt m (n / u : ℕ)).imp Int.cast_le.2 Int.cast_le.2
      rwa [Int.cast_add, Int.cast_natCast, Int.cast_one] at sides
    · refine .inl ((le_abs_self q).trans (small.le.trans ?_))
      exact mul_le_mul_of_nonneg_right floor scale.le
  rcases near with below | above
  · exact .inl (toFloat_of_between some below (mul_le_mul_of_nonneg_right low scale.le) reads
      bits.symm)
  · have magnitude : (0 : ℚ) < n / u * 10 ^ e :=
      mul_pos (((pow_pos (by norm_num) k).trans_le floor).trans_le low) scale
    have next : value ⟨(n / u : ℕ) + 1, e⟩ = ((n / u : ℕ) + 1) * 10 ^ e := by
      rw [value, Int.cast_add, Int.cast_natCast, Int.cast_one]
    refine .inr (toFloat_of_between magnitude ?_ ?_ bits.symm reads)
    · rw [next]
      exact mul_le_mul_of_nonneg_right high scale.le
    · rwa [next]

/-- No decimal with fewer digits than the shortest one is read as the double. -/
theorem fits_shortest_of_reads {d : Decimal} {k : ℕ} (finite : x.isFinite)
    (plus : (Binary.ofFloat x).negative = false) (some : 0 < d.mantissa) (reads : d.toFloat = x)
    (fits : Fits (k + 1) d.value) : Fits (k + 1) (shortest x).value := by
  rcases (Binary.ofFloat x).significand.eq_zero_or_pos with zero | positive
  · rw [shortest_of_zero zero]
    exact fits_of_le k.succ_pos (Nat.zero_le _) 0
  rcases le_or_gt (k + 1) 17 with few | many
  · have written : 0 < d.value := mul_pos (by exact_mod_cast some) (zpow_pos (by norm_num) _)
    have bits : bitsOf d.value = x.toBits.toNat := by rw [← toNat_toFloat some, reads]
    obtain ⟨d', found⟩ := exists_neighbour?_of_fits finite plus positive written bits fits
    exact fits_shortest_of_neighbour? finite positive few found
  · exact (fits_shortest finite plus).mono many.le

/-! ## Digits with a sign -/

/-- The shortest decimal of a finite double has no more than 17 significant digits. -/
theorem fits_ofFloat (finite : x.isFinite) : Fits 17 (ofFloat x).value := by
  rw [ofFloat]
  split_ifs with minus
  · rw [value_neg]
    exact (fits_shortest (Binary.isFinite_neg_of_finite finite) (Binary.plus_neg finite minus)).neg
  · exact fits_shortest finite (Bool.eq_false_iff.2 minus)

/-! ## The order of magnitudes -/

variable {y : Float}

lemma value_shortest_nonneg (x : Float) : 0 ≤ (shortest x).value :=
  mul_nonneg (by exact_mod_cast shortest_nonneg x) (zpow_nonneg (by norm_num) _)

/-- The shortest decimal of zero is zero. -/
lemma value_shortest_of_zero (zero : (Binary.ofFloat x).significand = 0) :
    (shortest x).value = 0 := by
  rw [shortest_of_zero zero]
  exact (value_eq_zero_iff _).2 rfl

/-- The shortest decimal of a magnitude that is not zero is positive and nearest to it. -/
lemma bitsOf_shortest (finite : x.isFinite) (plus : (Binary.ofFloat x).negative = false)
    (positive : 0 < (Binary.ofFloat x).significand) :
    0 < (shortest x).value ∧ bitsOf (shortest x).value = x.toBits.toNat := by
  have reads := toFloat_shortest finite plus
  have some : 0 < (shortest x).mantissa := by
    refine lt_of_le_of_ne (shortest_nonneg x) fun zero => ?_
    have none := toNat_toFloat_zero zero.symm
    rw [reads, ← Binary.bits_ofFloat, Binary.bits_of_plus plus, Binary.magnitudeBits] at none
    omega
  refine ⟨mul_pos (by exact_mod_cast some) (zpow_pos (by norm_num) _), ?_⟩
  rw [← toNat_toFloat some, reads]

/-- Larger magnitudes have larger shortest decimals. -/
lemma shortest_lt_shortest (finite : x.isFinite) (finite' : y.isFinite)
    (plus : (Binary.ofFloat x).negative = false) (plus' : (Binary.ofFloat y).negative = false)
    (less : (Binary.ofFloat x).value < (Binary.ofFloat y).value) :
    (shortest x).value < (shortest y).value := by
  have some' : 0 < (Binary.ofFloat y).significand := by
    refine Nat.pos_of_ne_zero fun zero => ?_
    rw [(Binary.value_eq_zero_iff _).2 zero] at less
    exact less.not_ge (Binary.value_nonneg _)
  obtain ⟨written', reads'⟩ := bitsOf_shortest finite' plus' some'
  rcases (Binary.ofFloat x).significand.eq_zero_or_pos with zero | some
  · rwa [value_shortest_of_zero zero]
  · obtain ⟨written, reads⟩ := bitsOf_shortest finite plus some
    by_contra le
    have back := bitsOf_mono written' (not_lt.1 le)
    have forth := bitsOf_mono (Binary.value_pos some) less.le
    rw [reads, reads'] at back
    rw [← Binary.toNat_toBits_eq finite plus some,
      ← Binary.toNat_toBits_eq finite' plus' some'] at forth
    exact less.ne (congrArg (fun x => (Binary.ofFloat x).value)
      (Binary.eq_of_toBits (le_antisymm forth back)))

/-- A magnitude tells the double without a sign. -/
lemma eq_of_value (finite : x.isFinite) (finite' : y.isFinite)
    (plus : (Binary.ofFloat x).negative = false) (plus' : (Binary.ofFloat y).negative = false)
    (same : (Binary.ofFloat x).value = (Binary.ofFloat y).value) : x = y := by
  have exact := Binary.value_toDecimal (Binary.ofFloat x)
  have nonneg : 0 ≤ (Binary.ofFloat x).toDecimal.mantissa := Int.natCast_nonneg _
  exact (toFloat_eq finite plus nonneg exact).symm.trans
    (toFloat_eq finite' plus' nonneg (exact.trans same))

/-- Shortest decimals are ordered as the magnitudes. -/
lemma shortest_le_iff (finite : x.isFinite) (finite' : y.isFinite)
    (plus : (Binary.ofFloat x).negative = false) (plus' : (Binary.ofFloat y).negative = false) :
    (shortest x).value ≤ (shortest y).value ↔
      (Binary.ofFloat x).value ≤ (Binary.ofFloat y).value := by
  rcases lt_trichotomy (Binary.ofFloat x).value (Binary.ofFloat y).value with less | same | more
  · exact iff_of_true (shortest_lt_shortest finite finite' plus plus' less).le less.le
  · rw [eq_of_value finite finite' plus plus' same]
    exact iff_of_true le_rfl le_rfl
  · exact iff_of_false (shortest_lt_shortest finite' finite plus' plus more).not_ge more.not_ge

/-! ## The order of doubles -/

lemma ofFloat_of_plus (plus : (Binary.ofFloat x).negative = false) :
    (ofFloat x).value = (shortest x).value := by
  rw [ofFloat, if_neg (Bool.eq_false_iff.1 plus)]

lemma ofFloat_of_minus (minus : (Binary.ofFloat x).negative = true) :
    (ofFloat x).value = -(shortest (-x)).value := by
  rw [ofFloat, if_pos minus, value_neg]

/-- A number without a sign is not above one with a sign unless both are zero. -/
lemma le_neg_iff_of_nonneg {p q : ℚ} (nonneg : 0 ≤ p) (nonneg' : 0 ≤ q) :
    p ≤ -q ↔ p ≤ 0 ∧ q ≤ 0 := by
  constructor
  · intro le
    exact ⟨by linarith, by linarith⟩
  · rintro ⟨le, le'⟩
    linarith

/-- The shortest decimal of a magnitude is zero just if it is. -/
lemma shortest_nonpos_iff (finite : x.isFinite) (plus : (Binary.ofFloat x).negative = false) :
    (shortest x).value ≤ 0 ↔ (Binary.ofFloat x).value ≤ 0 := by
  rcases (Binary.ofFloat x).significand.eq_zero_or_pos with zero | some
  · rw [value_shortest_of_zero zero, (Binary.value_eq_zero_iff _).2 zero]
  · exact iff_of_false (bitsOf_shortest finite plus some).1.not_ge (Binary.value_pos some).not_ge

/-- Finite doubles are ordered as the decimals that they are written as. -/
theorem value_ofFloat_le_iff (finite : x.isFinite) (finite' : y.isFinite) :
    (ofFloat x).value ≤ (ofFloat y).value ↔ x ≤ y := by
  have opposite := Binary.isFinite_neg_of_finite finite
  have opposite' := Binary.isFinite_neg_of_finite finite'
  rw [Binary.le_iff_signed finite finite']
  cases sign : (Binary.ofFloat x).negative with
  | false =>
    rw [ofFloat_of_plus sign, Binary.signed_of_plus sign]
    cases sign' : (Binary.ofFloat y).negative with
    | false =>
      rw [ofFloat_of_plus sign', Binary.signed_of_plus sign']
      exact shortest_le_iff finite finite' sign sign'
    | true =>
      have plus' := Binary.plus_neg finite' sign'
      rw [ofFloat_of_minus sign', Binary.signed_of_minus sign',
        le_neg_iff_of_nonneg (value_shortest_nonneg _) (value_shortest_nonneg _),
        le_neg_iff_of_nonneg (Binary.value_nonneg _) (Binary.value_nonneg _),
        shortest_nonpos_iff finite sign, shortest_nonpos_iff opposite' plus',
        Binary.value_neg finite']
  | true =>
    have plus := Binary.plus_neg finite sign
    rw [ofFloat_of_minus sign, Binary.signed_of_minus sign]
    cases sign' : (Binary.ofFloat y).negative with
    | false =>
      rw [ofFloat_of_plus sign', Binary.signed_of_plus sign']
      exact iff_of_true
        ((neg_nonpos.2 (value_shortest_nonneg _)).trans (value_shortest_nonneg _))
        ((neg_nonpos.2 (Binary.value_nonneg _)).trans (Binary.value_nonneg _))
    | true =>
      have plus' := Binary.plus_neg finite' sign'
      rw [ofFloat_of_minus sign', Binary.signed_of_minus sign', neg_le_neg_iff, neg_le_neg_iff,
        shortest_le_iff opposite' opposite plus' plus, Binary.value_neg finite,
        Binary.value_neg finite']

end Inspection.Decimal
