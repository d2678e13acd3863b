import Inspection.Proofs.Decimal.Digits
import Inspection.Proofs.Rule

/-!
# Exact limits

Rules compare the decimals that numbers are written as. The limits of a rule with limits on both
sides are rounded, but never past a number that has as few digits as a written one, so that what is
within the exact limits is accepted; and limits that have few digits themselves are exact
(`acceptsValue_exact`). Written numbers have the order of the doubles, so a rule with one limit
compares the doubles (`acceptsValue_of_one_limit`).
-/

namespace Inspection

/-- The number that a double is written as. -/
def written (x : Float) : ℚ :=
  (Decimal.ofFloat x).value

/-- A double that equals zero has no significand. -/
lemma Binary.significand_of_beq_zero {x : Float} (zero : x == 0.0) :
    (ofFloat x).significand = 0 := by
  have beq : x.toModel.unpack.beq (.zero .positive) = true := zero
  by_contra some
  by_cases finite : x.isFinite
  · rw [unpack_of_finite finite, unpacked, dif_neg some] at beq
    generalize (ofFloat x).sign = s at beq
    cases s <;> cases beq
  · rw [isFinite_iff] at finite
    rw [unpack_eq, if_neg finite] at beq
    split at beq
    case isTrue =>
      generalize (ofFloat x).sign = s at beq
      cases s <;> cases beq
    case isFalse => cases beq

/-- A double that equals zero is written as zero. -/
lemma written_of_zero {x : Float} (finite : x.isFinite) (zero : x == 0.0) : written x = 0 := by
  have none := Binary.significand_of_beq_zero zero
  have none' : (Binary.ofFloat (-x)).significand = 0 := by
    rw [Binary.ofFloat_neg finite]
    exact none
  rw [written, Decimal.ofFloat, Decimal.shortest_of_zero none, Decimal.shortest_of_zero none']
  split
  all_goals exact (Decimal.value_eq_zero_iff _).2 rfl

namespace Rule

/-- The number that a tolerance is written as; a missing one is zero. -/
def writtenTolerance : Option Float → ℚ
  | some t => written t
  | none => 0

/-- The lower limit of a rule with limits on both sides, before it is rounded. -/
def exactLower (r : Rule) : ℚ :=
  written r.value - writtenTolerance r.toleranceMinus

/-- The upper limit of a rule with limits on both sides, before it is rounded. -/
def exactUpper (r : Rule) : ℚ :=
  written r.value + writtenTolerance r.tolerancePlus

/-- The rule states finite numbers only. -/
structure Finite (r : Rule) : Prop where
  value : Number.isFinite r.value
  minus : ∀ t ∈ r.toleranceMinus, Number.isFinite t
  plus : ∀ t ∈ r.tolerancePlus, Number.isFinite t

/-- The numbers that the rule is to accept, by the exact limits. -/
def Within (r : Rule) (q : ℚ) : Prop :=
  match r.kind with
  | .min => written r.value ≤ q
  | .max => q ≤ written r.value
  | .between => r.exactLower ≤ q ∧ q ≤ r.exactUpper

/-- The exact limits that are rounded have no more digits than are kept. -/
def Kept (r : Rule) : Prop :=
  r.kind = .between → Decimal.Fits Extended.precision r.exactLower ∧
    Decimal.Fits Extended.precision r.exactUpper

variable {r : Rule} {x : Float}

/-- A finite tolerance is a finite decimal. -/
lemma tolerance_eq {t : Option Float} (finite : ∀ x ∈ t, Number.isFinite x) :
    ∃ d, tolerance t = .finite d ∧ d.value = writtenTolerance t := by
  cases t with
  | none => exact ⟨⟨0, 0⟩, rfl, (Decimal.value_eq_zero_iff _).2 rfl⟩
  | some x =>
    rw [tolerance, writtenTolerance]
    split
    case isTrue zero =>
      rw [written_of_zero (Number.isFinite_iff.1 (finite x rfl)) zero]
      exact ⟨⟨0, 0⟩, rfl, (Decimal.value_eq_zero_iff _).2 rfl⟩
    case isFalse => exact ⟨_, Extended.ofFloat_of_isFinite (finite x rfl), rfl⟩

/-- The lower limit is the rounded exact one. -/
lemma exists_lower (finite : r.Finite) : ∃ d : Decimal,
    r.lower = .ok (.finite (d.limit Extended.precision)) ∧ d.value = r.exactLower := by
  obtain ⟨t, same, value⟩ := tolerance_eq finite.minus
  refine ⟨Decimal.ofFloat r.value + -t, ?_, ?_⟩
  · rw [lower, Extended.ofFloat_of_isFinite finite.value, same]
    rfl
  · rw [Decimal.value_add, Decimal.value_neg, value]
    exact (sub_eq_add_neg _ _).symm

/-- The upper limit is the rounded exact one. -/
lemma exists_upper (finite : r.Finite) : ∃ d : Decimal,
    r.upper = .ok (.finite (d.limit Extended.precision)) ∧ d.value = r.exactUpper := by
  obtain ⟨t, same, value⟩ := tolerance_eq finite.plus
  refine ⟨Decimal.ofFloat r.value + t, ?_, ?_⟩
  · rw [upper, Extended.ofFloat_of_isFinite finite.value, same]
    rfl
  · rw [Decimal.value_add, value]
    rfl

/-- Finite decimals are in order as the numbers that they write. -/
lemma atMost_finite (a b : Decimal) :
    (Extended.finite a).atMost (.finite b) = .ok (decide (a.value ≤ b.value)) := by
  rw [Extended.atMost]
  exact congrArg Except.ok (decide_eq_decide.2 Decimal.le_iff_value)

/-- A rule with limits on both sides asks for what is between the rounded ones. -/
lemma admits_of_between {l u d : Decimal} (kind : r.kind = .between)
    (lower : r.lower = .ok (.finite l)) (upper : r.upper = .ok (.finite u))
    (measured : Extended.ofFloat x = .finite d) :
    r.admits x = .ok (decide (l.value ≤ d.value ∧ d.value ≤ u.value)) := by
  rw [admits, kind, measured]
  simp only [lower, upper, ok_bind, atMost_finite, decide_eq_true_eq]
  by_cases reached : l.value ≤ d.value
  · rw [if_pos reached, Bool.decide_and, decide_eq_true reached, Bool.true_and]
  · rw [if_neg reached, Bool.decide_and, decide_eq_false reached, Bool.false_and]
    rfl

/-- What is within the exact limits of a rule is within the rounded ones, and nothing else is if the
exact limits are kept. -/
lemma admits_exact (finite : r.Finite) (number : Number.isFinite x) :
    ∃ answer, r.admits x = .ok answer ∧ (r.Within (written x) → answer = true) ∧
      (r.Kept → answer = true → r.Within (written x)) := by
  have measured := Extended.ofFloat_of_isFinite number
  cases kind : r.kind with
  | min =>
    refine ⟨decide (written r.value ≤ written x), ?_, ?_⟩
    · rw [admits, kind, measured, Extended.ofFloat_of_isFinite finite.value]
      exact atMost_finite _ _
    · rw [Within, kind, decide_eq_true_iff]
      exact ⟨id, fun _ => id⟩
  | max =>
    refine ⟨decide (written x ≤ written r.value), ?_, ?_⟩
    · rw [admits, kind, measured, Extended.ofFloat_of_isFinite finite.value]
      exact atMost_finite _ _
    · rw [Within, kind, decide_eq_true_iff]
      exact ⟨id, fun _ => id⟩
  | between =>
    have fits : Decimal.Fits Extended.precision (written x) :=
      (Decimal.fits_ofFloat (Number.isFinite_iff.1 number)).mono (by decide)
    obtain ⟨l, lower, low⟩ := exists_lower finite
    obtain ⟨u, upper, high⟩ := exists_upper finite
    refine ⟨_, admits_of_between kind lower upper measured, ?_⟩
    rw [Within, Kept, kind, decide_eq_true_iff, ← low, ← high]
    constructor
    · rintro ⟨above, below⟩
      exact ⟨Decimal.limit_le fits above, Decimal.le_limit fits below⟩
    · intro kept
      obtain ⟨few, few'⟩ := kept rfl
      rw [Extended.precision, Decimal.value_limit few, Decimal.value_limit few']
      exact id

variable {v : Json}

/-- A rule that states finite numbers decides on every finite number: it accepts what is within the
exact limits, and nothing else unless it has limits on both sides that have more digits than are
kept. -/
theorem acceptsValue_exact (finite : r.Finite) (double : v.double? = some x)
    (number : Number.isFinite x) : ∃ answer, acceptsValue (some r) v = .ok answer ∧
      (r.Within (written x) → answer = true) ∧ (r.Kept → answer = true → r.Within (written x)) := by
  rw [acceptsValue_of_double double, accepts, if_pos number]
  exact admits_exact finite number

/-- The limit that 14.4 ± 0.3 states is accepted, and what is just beyond it is not. -/
theorem stated_limit_accepted :
    acceptsValue (some ⟨.between, 14.4, "mm", some 0.3, some 0.3⟩) (.float 14.7) = .ok true ∧
      acceptsValue (some ⟨.between, 14.4, "mm", some 0.3, some 0.3⟩) (.float 14.700000000000001) =
        .ok false := by
  have value : written 14.4 = 144 / 10 := by
    have parts : Decimal.ofFloat 14.4 = ⟨144, -1⟩ := by decide +kernel
    norm_num [written, parts, Decimal.value]
  have tolerance : written 0.3 = 3 / 10 := by
    have parts : Decimal.ofFloat 0.3 = ⟨3, -1⟩ := by decide +kernel
    norm_num [written, parts, Decimal.value]
  have limit : written 14.7 = 147 / 10 := by
    have parts : Decimal.ofFloat 14.7 = ⟨147, -1⟩ := by decide +kernel
    norm_num [written, parts, Decimal.value]
  have beyond : written 14.700000000000001 = 14700000000000001 / 10 ^ 15 := by
    have parts : Decimal.ofFloat 14.700000000000001 = ⟨14700000000000001, -15⟩ := by decide +kernel
    norm_num [written, parts, Decimal.value]
  have finite : Finite ⟨.between, 14.4, "mm", some 0.3, some 0.3⟩ := by
    refine ⟨by decide +kernel, ?_, ?_⟩
    all_goals
      intro t stated
      obtain rfl := Option.some.inj stated
      decide +kernel
  have kept : Kept ⟨.between, 14.4, "mm", some 0.3, some 0.3⟩ := by
    refine fun _ => ⟨⟨141, -1, by decide, ?_⟩, ⟨147, -1, by decide, ?_⟩⟩
    · norm_num [exactLower, writtenTolerance, value, tolerance]
    · norm_num [exactUpper, writtenTolerance, value, tolerance]
  constructor
  · obtain ⟨answer, own, within, -⟩ :=
      acceptsValue_exact (v := .float 14.7) finite rfl (by decide +kernel)
    rw [own, within ?_]
    norm_num [Within, exactLower, exactUpper, writtenTolerance, value, tolerance, limit]
  · obtain ⟨answer, own, -, only⟩ :=
      acceptsValue_exact (v := .float 14.700000000000001) finite rfl (by decide +kernel)
    rw [own]
    cases answer with
    | false => rfl
    | true =>
      have within := only kept rfl
      norm_num [Within, exactLower, exactUpper, writtenTolerance, value, tolerance, beyond]
        at within

/-- A rule with one limit that states a finite number compares it with finite numbers as doubles. -/
theorem acceptsValue_of_one_limit (finite : r.Finite) (double : v.double? = some x)
    (number : Number.isFinite x) :
    (r.kind = .min → acceptsValue (some r) v = .ok (decide (r.value ≤ x))) ∧
      (r.kind = .max → acceptsValue (some r) v = .ok (decide (x ≤ r.value))) := by
  have order {y z : Float} (finite : Number.isFinite y) (finite' : Number.isFinite z) :
      written y ≤ written z ↔ y ≤ z :=
    Decimal.value_ofFloat_le_iff (Number.isFinite_iff.1 finite) (Number.isFinite_iff.1 finite')
  obtain ⟨answer, own, within, only⟩ := admits_exact finite number
  rw [acceptsValue_of_double double, accepts, if_pos number, own]
  constructor
  · intro kind
    rw [Within, kind] at within only
    have kept : r.Kept := fun between =>
      absurd (kind.symm.trans between) (by decide)
    refine congrArg Except.ok (Bool.eq_iff_iff.2 ?_)
    rw [decide_eq_true_iff, ← order finite.value number]
    exact ⟨only kept, within⟩
  · intro kind
    rw [Within, kind] at within only
    have kept : r.Kept := fun between =>
      absurd (kind.symm.trans between) (by decide)
    refine congrArg Except.ok (Bool.eq_iff_iff.2 ?_)
    rw [decide_eq_true_iff, ← order number finite.value]
    exact ⟨only kept, within⟩

end Rule

end Inspection
