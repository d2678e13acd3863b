import Inspection.Proofs.Outcome
import Inspection.Rule
import Inspection.Schema.Kind

/-!
# Answers of rules

When a rule has an answer. Numbers are put in order unless one of them is none
(`atMost_eq_error_iff`), and they have a sum unless they are infinities that cancel each other
(`add_eq_error_iff`), so that a rule cannot decide on a finite number just where one of these stands
behind a limit that it compares (`admits_eq_error_iff`). A value of any kind has an answer
otherwise, unless it is an integer beyond the greatest double, and values that are no finite numbers
are never acceptable (`acceptsValue_answers`).
-/

namespace Inspection

namespace Extended

/-- A finite double is a finite number. -/
lemma ofFloat_of_isFinite {x : Float} (h : Number.isFinite x) :
    ofFloat x = finite (Decimal.ofFloat x) := by
  rw [Number.isFinite, Bool.and_eq_true, Bool.not_eq_true', Bool.not_eq_true'] at h
  rw [ofFloat, h.1, h.2]
  rfl

/-- Numbers are in order unless one of them is none. -/
lemma atMost_eq_error_iff {a b : Extended} {flaw : RuleFault} :
    a.atMost b = .error flaw ↔ flaw = .undefined ∧ (a = notANumber ∨ b = notANumber) := by
  constructor
  · intro h
    cases a with
    | notANumber =>
      cases h
      exact ⟨rfl, .inl rfl⟩
    | infinite negative =>
      cases b with
      | notANumber =>
        cases h
        exact ⟨rfl, .inr rfl⟩
      | infinite negative' => cases h
      | finite d => cases h
    | finite d =>
      cases b with
      | notANumber =>
        cases h
        exact ⟨rfl, .inr rfl⟩
      | infinite negative => cases h
      | finite d' => cases h
  · rintro ⟨rfl, rfl | rfl⟩
    · rfl
    · cases a <;> rfl

/-- Numbers have a sum unless they are infinities that cancel each other. -/
lemma add_eq_error_iff {a b : Extended} {flaw : RuleFault} :
    a.add b = .error flaw ↔
      flaw = .undefined ∧ ∃ negative, a = infinite negative ∧ b = infinite !negative := by
  cases a with
  | notANumber => simp [add]
  | infinite negative =>
    cases b with
    | notANumber => simp [add]
    | infinite negative' =>
      cases flaw with
      | undefined => cases negative <;> cases negative' <;> simp [add]
      | hugeInteger => cases negative <;> cases negative' <;> simp [add]
    | finite d => simp [add]
  | finite d => cases b <;> simp [add]

/-- A sum is no number just if one of the two is none. -/
lemma add_eq_notANumber {a b : Extended} :
    a.add b = .ok notANumber ↔ a = notANumber ∨ b = notANumber := by
  cases a with
  | notANumber => simp [add]
  | infinite negative =>
    cases b with
    | notANumber => simp [add]
    | infinite negative' =>
      rw [add]
      split
      all_goals simp
    | finite d => simp [add]
  | finite d => cases b <;> simp [add]

/-- The number with the other sign is none just if the number is. -/
@[simp] lemma neg_eq_notANumber {a : Extended} : a.neg = notANumber ↔ a = notANumber := by
  cases a <;> simp [neg]

/-- The number with the other sign is an infinity just if the number is the other one. -/
@[simp] lemma neg_eq_infinite {a : Extended} {negative : Bool} :
    a.neg = infinite (!negative) ↔ a = infinite negative := by
  cases a <;> simp [neg]

end Extended

namespace Rule

/-- The limits that a rule sets. -/
def limits (r : Rule) : List (Except RuleFault Extended) :=
  match r.kind with
  | .min | .max => [.ok (.ofFloat r.value)]
  | .between => [r.lower, r.upper]

/-- One of the limits is undefined, since infinities cancel each other in it, or is no number. -/
def Unordered (r : Rule) : Prop :=
  .error .undefined ∈ r.limits ∨ .ok .notANumber ∈ r.limits

/-- Why a rule cannot decide on a finite number. -/
inductive Undecided (r : Rule) (x : Float) : Prop
  /-- What the rule asks for is no number. -/
  | value (none : Extended.ofFloat r.value = .notANumber)
  /-- Infinities cancel each other in the lower limit. -/
  | lower {negative : Bool} (kind : r.kind = .between)
      (value : Extended.ofFloat r.value = .infinite negative)
      (minus : tolerance r.toleranceMinus = .infinite negative)
  /-- Infinities cancel each other in the upper limit. -/
  | upper {negative : Bool} (kind : r.kind = .between)
      (value : Extended.ofFloat r.value = .infinite negative)
      (plus : tolerance r.tolerancePlus = .infinite !negative)
  /-- The tolerance below is no number. -/
  | minus (kind : r.kind = .between) (none : tolerance r.toleranceMinus = .notANumber)
  /-- The tolerance above is no number, and the number is not below the lower limit. -/
  | plus {limit : Extended} (kind : r.kind = .between)
      (none : tolerance r.tolerancePlus = .notANumber) (lower : r.lower = .ok limit)
      (reached : limit.atMost (.ofFloat x) = .ok true)

variable {r : Rule} {x : Float} {flaw : RuleFault}

/-- A lower limit is there unless infinities cancel each other in it. -/
lemma lower_eq_error_iff : r.lower = .error flaw ↔ flaw = .undefined ∧
    ∃ negative, Extended.ofFloat r.value = .infinite negative ∧
      tolerance r.toleranceMinus = .infinite negative := by
  simp [lower, Extended.add_eq_error_iff]

/-- An upper limit is there unless infinities cancel each other in it. -/
lemma upper_eq_error_iff : r.upper = .error flaw ↔ flaw = .undefined ∧
    ∃ negative, Extended.ofFloat r.value = .infinite negative ∧
      tolerance r.tolerancePlus = .infinite !negative := by
  rw [upper, Extended.add_eq_error_iff]

/-- A rule has no answer where its lower limit is no number. -/
lemma admits_of_lower_none (kind : r.kind = .between) (lower : r.lower = .ok .notANumber) :
    r.admits x = .error .undefined := by
  rw [admits, kind]
  simp only [lower, ok_bind]
  cases above : r.upper with
  | error flaw =>
    obtain ⟨rfl, -⟩ := upper_eq_error_iff.1 above
    rfl
  | ok upper => rfl

/-- A rule has no answer where infinities cancel each other in its upper limit. -/
lemma admits_of_upper_undefined (kind : r.kind = .between) (upper : r.upper = .error .undefined) :
    r.admits x = .error .undefined := by
  rw [admits, kind]
  simp only [upper]
  cases below : r.lower with
  | error flaw =>
    obtain ⟨rfl, -⟩ := lower_eq_error_iff.1 below
    rfl
  | ok lower => rfl

/-- A rule that cannot decide on a finite number has no answer for it. -/
lemma Undecided.admits (undecided : r.Undecided x) :
    r.admits x = .error .undefined := by
  cases undecided with
  | value none =>
    cases kind : r.kind with
    | min =>
      rw [Rule.admits, kind]
      exact Extended.atMost_eq_error_iff.2 ⟨rfl, .inl none⟩
    | max =>
      rw [Rule.admits, kind]
      exact Extended.atMost_eq_error_iff.2 ⟨rfl, .inr none⟩
    | between => exact admits_of_lower_none kind (Extended.add_eq_notANumber.2 (.inl none))
  | lower kind value minus =>
    have none := lower_eq_error_iff.2 ⟨rfl, _, value, minus⟩
    rw [Rule.admits, kind]
    simp only [none]
    rfl
  | upper kind value plus =>
    exact admits_of_upper_undefined kind (upper_eq_error_iff.2 ⟨rfl, _, value, plus⟩)
  | minus kind none =>
    have none := Extended.neg_eq_notANumber.2 none
    exact admits_of_lower_none kind (Extended.add_eq_notANumber.2 (.inr none))
  | plus kind none lower reached =>
    have above : r.upper = .ok .notANumber := Extended.add_eq_notANumber.2 (.inr none)
    rw [Rule.admits, kind]
    simp only [lower, above, ok_bind, reached]
    exact Extended.atMost_eq_error_iff.2 ⟨rfl, .inr rfl⟩

/-- A rule has no answer for a finite number just if it cannot decide on it. -/
lemma admits_eq_error_iff (finite : Number.isFinite x) :
    r.admits x = .error flaw ↔ flaw = .undefined ∧ r.Undecided x := by
  constructor
  · intro h
    have number := Extended.ofFloat_of_isFinite finite
    rw [admits] at h
    cases kind : r.kind with
    | min =>
      rw [kind] at h
      obtain ⟨rfl, none | none⟩ := Extended.atMost_eq_error_iff.1 h
      · exact ⟨rfl, .value none⟩
      · simp [number] at none
    | max =>
      rw [kind] at h
      obtain ⟨rfl, none | none⟩ := Extended.atMost_eq_error_iff.1 h
      · simp [number] at none
      · exact ⟨rfl, .value none⟩
    | between =>
      rw [kind] at h
      obtain h | ⟨lower, below, h⟩ := bind_eq_error.1 h
      · obtain ⟨rfl, negative, value, minus⟩ := lower_eq_error_iff.1 h
        exact ⟨rfl, .lower kind value minus⟩
      obtain h | ⟨upper, above, h⟩ := bind_eq_error.1 h
      · obtain ⟨rfl, negative, value, plus⟩ := upper_eq_error_iff.1 h
        exact ⟨rfl, .upper kind value plus⟩
      obtain h | ⟨reached, compared, h⟩ := bind_eq_error.1 h
      · obtain ⟨rfl, rfl | none⟩ := Extended.atMost_eq_error_iff.1 h
        · obtain none | none := Extended.add_eq_notANumber.1 below
          · exact ⟨rfl, .value none⟩
          · exact ⟨rfl, .minus kind (Extended.neg_eq_notANumber.1 none)⟩
        · simp [number] at none
      split at h
      case isTrue yes =>
        obtain ⟨rfl, none | rfl⟩ := Extended.atMost_eq_error_iff.1 h
        · simp [number] at none
        obtain none | none := Extended.add_eq_notANumber.1 above
        · exact ⟨rfl, .value none⟩
        · rw [yes] at compared
          exact ⟨rfl, .plus kind none below compared⟩
      case isFalse => cases h
  · rintro ⟨rfl, undecided⟩
    exact undecided.admits

/-- A limit of a rule that cannot decide is undefined or no number. -/
lemma Undecided.unordered (undecided : r.Undecided x) : r.Unordered := by
  rw [Unordered, limits]
  cases undecided with
  | value none =>
    have below : r.lower = .ok .notANumber := Extended.add_eq_notANumber.2 (.inl none)
    cases r.kind <;> simp [none, below]
  | lower kind value minus =>
    have none := lower_eq_error_iff.2 ⟨rfl, _, value, minus⟩
    simp [kind, none]
  | upper kind value plus =>
    have none := upper_eq_error_iff.2 ⟨rfl, _, value, plus⟩
    simp [kind, none]
  | minus kind none =>
    have below : r.lower = .ok .notANumber :=
      Extended.add_eq_notANumber.2 (.inr (Extended.neg_eq_notANumber.2 none))
    simp [kind, below]
  | plus kind none lower reached =>
    have above : r.upper = .ok .notANumber := Extended.add_eq_notANumber.2 (.inr none)
    simp [kind, above]

variable {rule : Option Rule} {v : Json}

/-- A measured double has an answer unless it is finite and the rule cannot decide on it. -/
lemma accepts_eq_error_iff : accepts rule (some x) = .error flaw ↔
    flaw = .undefined ∧ ∃ r, rule = some r ∧ Number.isFinite x ∧ r.Undecided x := by
  cases rule with
  | none => simp [accepts]
  | some r =>
    rw [accepts]
    split
    case isTrue finite => simp [admits_eq_error_iff, finite]
    case isFalse infinite => simp [infinite]

/-- A measured double that is not finite is never acceptable. -/
lemma accepts_of_not_isFinite (infinite : ¬Number.isFinite x) :
    accepts rule (some x) = .ok false := by
  cases rule with
  | none => rfl
  | some r => exact if_neg infinite

/-- A number is accepted as its double is. -/
lemma acceptsValue_of_double (h : v.double? = some x) :
    acceptsValue rule v = accepts rule (some x) := by
  cases v with
  | int n =>
    rw [acceptsValue]
    rw [Json.double?] at h
    rw [h]
  | float y => rw [acceptsValue, Option.some.inj h]
  | null | bool _ | text _ | list _ | record _ => cases h

/-- What has no double is an integer beyond the greatest one, or never acceptable. -/
lemma acceptsValue_of_no_double (h : v.double? = none) :
    (∃ n, v = .int n) ∧ acceptsValue rule v = .error .hugeInteger ∨
      (∀ n, v ≠ .int n) ∧ acceptsValue rule v = .ok false := by
  cases v with
  | int n =>
    rw [Json.double?] at h
    exact .inl ⟨⟨n, rfl⟩, by rw [acceptsValue, h]⟩
  | float x => cases h
  | null | bool _ | text _ | list _ | record _ => exact .inr ⟨by simp, rfl⟩

/-- A value has an answer unless it is an integer beyond the greatest double, or a number with a
finite double that the rule cannot decide on. -/
lemma acceptsValue_eq_error_iff : acceptsValue rule v = .error flaw ↔
    (flaw = .hugeInteger ∧ v.double? = none ∧ ∃ n, v = .int n) ∨
      flaw = .undefined ∧
        ∃ r x, rule = some r ∧ v.double? = some x ∧ Number.isFinite x ∧ r.Undecided x := by
  cases double : v.double? with
  | some x => simp [acceptsValue_of_double double, accepts_eq_error_iff]
  | none =>
    obtain ⟨integer, h⟩ | ⟨other, h⟩ := @acceptsValue_of_no_double rule v double
    · cases flaw <;> simp [h, integer]
    · simp [h, other]

/-- A rule answers for values of every kind: it has no answer just for the integers beyond the
greatest double and for the numbers with a finite double that it cannot decide on, and it accepts
nothing that is neither an integer nor a finite double. -/
theorem acceptsValue_answers (rule : Option Rule) (v : Json) :
    (∀ flaw, acceptsValue rule v = .error flaw ↔
      (flaw = .hugeInteger ∧ v.double? = none ∧ ∃ n, v = .int n) ∨
        flaw = .undefined ∧
          ∃ r x, rule = some r ∧ v.double? = some x ∧ Number.isFinite x ∧ r.Undecided x) ∧
    ((∃ n, v = .int n) ∨ (∃ x, v = .float x ∧ Number.isFinite x) ∨
      acceptsValue rule v = .ok false) := by
  refine ⟨fun flaw => acceptsValue_eq_error_iff, ?_⟩
  cases v with
  | int n => exact .inl ⟨n, rfl⟩
  | float x =>
    by_cases finite : Number.isFinite x
    · exact .inr (.inl ⟨x, rfl, finite⟩)
    · exact .inr (.inr (accepts_of_not_isFinite finite))
  | null | bool _ | text _ | list _ | record _ => exact .inr (.inr rfl)

/-- Not every value has an answer: nothing is in order with a limit that is no number. -/
theorem number_may_be_undecided :
    ¬∀ (rule : Option Rule) (v : Json), ∃ answer, acceptsValue rule v = .ok answer := by
  intro answered
  obtain ⟨answer, h⟩ := answered (some ⟨.min, 0.0 / 0.0, "mm", none, none⟩) (.float 1.0)
  have undefined : acceptsValue (some ⟨.min, 0.0 / 0.0, "mm", none, none⟩) (.float 1.0) =
      .error .undefined := by rfl
  rw [undefined] at h
  cases h

end Rule

end Inspection
