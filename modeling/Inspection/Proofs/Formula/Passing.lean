import Inspection.Proofs.Decimal.Range
import Inspection.Proofs.Double.Order
import Inspection.Proofs.Formula.Halting

/-!
# Numbers that formulas pass on

Operators between two numbers and functions give finite numbers, conditions give truths, and signs
and conditionals pass on what they are given (`Passes`). So a number that is not finite is one that
the formula writes or one that a name stands for, with another sign perhaps (`Expr.passes`,
`evaluate_passes_on`).
-/

namespace Inspection

namespace Formula

/-! ## What is computed -/

section

variable {x y : Float} {v : Value}

/-- What was found finite is a finite number. -/
lemma finite_eq_ok (h : finite x = .ok v) : v = .number x ∧ Number.isFinite x := by
  rw [finite] at h
  split at h
  case isTrue finite =>
    cases h
    exact ⟨rfl, finite⟩
  case isFalse => cases h

/-- Operators between two numbers give finite numbers. -/
lemma Arith.apply_eq_ok {op : Arith} (h : op.apply x y = .ok v) :
    ∃ r, v = .number r ∧ Number.isFinite r := by
  cases op with
  | add => exact ⟨_, finite_eq_ok h⟩
  | sub => exact ⟨_, finite_eq_ok h⟩
  | mul => exact ⟨_, finite_eq_ok h⟩
  | div =>
    rw [Arith.apply] at h
    split at h
    case isTrue => cases h
    case isFalse => exact ⟨_, finite_eq_ok h⟩
  | pow =>
    rw [Arith.apply] at h
    split at h
    case h_1 => exact ⟨_, finite_eq_ok h⟩
    all_goals cases h

/-- Functions answer finite numbers. -/
lemma answered_eq_ok {name : String} {answer : Except Misuse Answer}
    (h : answered name answer = .ok v) : ∃ r, v = .number r ∧ Number.isFinite r := by
  unfold answered at h
  split at h
  case h_1 => cases h
  case h_2 => cases h
  case h_3 => exact ⟨_, finite_eq_ok h⟩
  case h_4 =>
    obtain ⟨r, -, h⟩ := bind_eq_ok.1 h
    exact ⟨r, finite_eq_ok h⟩

/-- A number that is not finite is no truth that counts as a number. -/
lemma asNumber_eq_ok {role : Role} (h : v.asNumber role = .ok x)
    (infinite : ¬Number.isFinite x) : v = .number x := by
  have truths : ∀ b : Bool, Number.isFinite (if b then 1.0 else 0.0) := by decide +kernel
  rw [Value.asNumber] at h
  cases v with
  | flag b =>
    cases h
    exact absurd (truths b) infinite
  | number y =>
    cases h
    rfl
  | array xs => cases h

/-- Connected conditions give a truth. -/
lemma evalConnected_eq_ok {functions : Functions} {bindings : Bindings} {op : Connective}
    {es : List Expr} (h : evalConnected functions bindings op es = .ok v) : ∃ b, v = .flag b := by
  induction es with
  | nil =>
    cases h
    exact ⟨_, rfl⟩
  | cons e rest ih =>
    rw [evalConnected] at h
    obtain ⟨w, -, h⟩ := bind_eq_ok.1 h
    obtain ⟨b, -, h⟩ := bind_eq_ok.1 h
    split at h
    case isTrue =>
      cases h
      exact ⟨_, rfl⟩
    case isFalse => exact ih h

/-- A chain of comparisons gives a truth. -/
lemma evalRelated_eq_ok {functions : Functions} {bindings : Bindings}
    {es : List (Relation × Expr)} (h : evalRelated functions bindings x es = .ok v) :
    ∃ b, v = .flag b := by
  induction es generalizing x with
  | nil =>
    cases h
    exact ⟨_, rfl⟩
  | cons e rest ih =>
    rw [evalRelated] at h
    obtain ⟨w, -, h⟩ := bind_eq_ok.1 h
    obtain ⟨y, -, h⟩ := bind_eq_ok.1 h
    split at h
    case isTrue => exact ih h
    case isFalse =>
      cases h
      exact ⟨_, rfl⟩

end

/-! ## What is passed on -/

/-- The number with the other sign, or the number. -/
def signed (flips : Bool) (x : Float) : Float :=
  if flips then -x else x

lemma signed_not_neg (flips : Bool) (x : Float) : signed (!flips) (-x) = signed flips x := by
  cases flips with
  | true => rfl
  | false => exact Binary.neg_neg_self x

lemma signed_signed (flips : Bool) (x : Float) : signed flips (signed flips x) = x := by
  cases flips with
  | true => exact Binary.neg_neg_self x
  | false => rfl

lemma isFinite_signed (flips : Bool) (x : Float) :
    Number.isFinite (signed flips x) ↔ Number.isFinite x := by
  cases flips with
  | true =>
    rw [Number.isFinite_iff, Number.isFinite_iff, signed, if_pos rfl, Binary.isFinite_neg]
  | false => rfl

section

variable (functions : Functions) (bindings : Bindings)

/-- A formula passes on the number of one of its leaves, through signs and chosen branches, with the
other sign or not. -/
inductive Passes : Expr → (flips : Bool) → Leaf → Prop
  | literal {l} :
    Passes (.literal l) false (.literal l)
  | name {n} :
    Passes (.name n) false (.name n)
  | plus {e flips leaf} :
    Passes e flips leaf →
    Passes (.unary .plus e) flips leaf
  | minus {e flips leaf} :
    Passes e flips leaf →
    Passes (.unary .minus e) (!flips) leaf
  | chosen {c t e v b flips leaf} :
    c.eval functions bindings = .ok v →
    v.holds = .ok b →
    Passes (if b then t else e) flips leaf →
    Passes (.call choiceName [c, t, e]) flips leaf

end

variable {functions : Functions} {bindings : Bindings}

/-- What is passed on is a leaf of the formula. -/
lemma Passes.mem_leaves {e : Expr} {flips : Bool} {leaf : Leaf}
    (passes : Passes functions bindings e flips leaf) : leaf ∈ e.leaves := by
  induction passes with
  | literal => exact List.mem_cons_self
  | name => exact List.mem_cons_self
  | plus _ ih => exact ih
  | minus _ ih => exact ih
  | @chosen c t e v b flips leaf _ _ _ ih =>
    rw [Expr.leaves, leavesOfAll, leavesOfAll, leavesOfAll]
    cases b with
    | true => exact List.mem_append_right _ (List.mem_append_left _ ih)
    | false =>
      exact List.mem_append_right _ (List.mem_append_right _ (List.mem_append_left _ ih))

/-- The value of a formula with a sign is not finite only if that of the operand is not. -/
lemma eval_unary_eq_number {op : Unary} {e : Expr} {x : Float} (infinite : ¬Number.isFinite x)
    (h : (Expr.unary op e).eval functions bindings = .ok (.number x)) :
    op = .plus ∧ e.eval functions bindings = .ok (.number x) ∨
      op = .minus ∧ ∃ y, x = -y ∧ ¬Number.isFinite y ∧
        e.eval functions bindings = .ok (.number y) := by
  rw [Expr.eval] at h
  obtain ⟨v, own, h⟩ := bind_eq_ok.1 h
  cases op with
  | not =>
    obtain ⟨b, -, h⟩ := bind_eq_ok.1 h
    cases h
  | plus =>
    obtain ⟨y, number, h⟩ := bind_eq_ok.1 h
    cases h
    rw [asNumber_eq_ok number infinite] at own
    exact .inl ⟨rfl, own⟩
  | minus =>
    obtain ⟨y, number, h⟩ := bind_eq_ok.1 h
    cases h
    rw [Number.isFinite_iff, Binary.isFinite_neg, ← Number.isFinite_iff] at infinite
    rw [asNumber_eq_ok number infinite] at own
    exact .inr ⟨rfl, y, rfl, infinite, own⟩

/-- Arithmetic computes finite numbers. -/
lemma isFinite_of_eval_arith {op : Arith} {a b : Expr} {x : Float}
    (h : (Expr.arith op a b).eval functions bindings = .ok (.number x)) : Number.isFinite x := by
  rw [Expr.eval] at h
  obtain ⟨v, -, h⟩ := bind_eq_ok.1 h
  obtain ⟨y, -, h⟩ := bind_eq_ok.1 h
  obtain ⟨w, -, h⟩ := bind_eq_ok.1 h
  obtain ⟨z, -, h⟩ := bind_eq_ok.1 h
  obtain ⟨r, same, finite⟩ := Arith.apply_eq_ok h
  cases same
  exact finite

/-- A call has a value that is not finite only if it is a choice, and its chosen branch has it. -/
lemma eval_call_eq_number {f : String} {args : List Expr} {x : Float}
    (infinite : ¬Number.isFinite x)
    (h : (Expr.call f args).eval functions bindings = .ok (.number x)) :
    ∃ c t e v b, f = choiceName ∧ args = [c, t, e] ∧ c.eval functions bindings = .ok v ∧
      v.holds = .ok b ∧ (if b then t else e).eval functions bindings = .ok (.number x) := by
  rw [Expr.eval.eq_def] at h
  dsimp only at h
  split at h
  case isTrue choice =>
    split at h
    case h_1 c t e =>
      obtain ⟨v, condition, h⟩ := bind_eq_ok.1 h
      obtain ⟨b, truth, h⟩ := bind_eq_ok.1 h
      refine ⟨c, t, e, v, b, choice, rfl, condition, truth, ?_⟩
      rw [← h]
      cases b <;> rfl
    case h_2 => cases h
  case isFalse =>
    split at h
    case h_1 => cases h
    case h_2 =>
      obtain ⟨vs, -, h⟩ := bind_eq_ok.1 h
      obtain ⟨r, same, finite⟩ := answered_eq_ok h
      cases same
      exact absurd finite infinite

mutual

/-- A formula whose value is a number that is not finite passes it on. -/
lemma Expr.passes : (e : Expr) → ∀ {x}, e.eval functions bindings = .ok (.number x) →
    ¬Number.isFinite x → ∃ flips leaf, Passes functions bindings e flips leaf ∧
      leaf.value bindings = .ok (.number (signed flips x))
  | .literal l, x, h, _ => ⟨false, .literal l, .literal, h⟩
  | .name n, x, h, _ => ⟨false, .name n, .name, h⟩
  | .unary op e, x, h, infinite => by
    obtain ⟨rfl, own⟩ | ⟨rfl, y, rfl, infinite', own⟩ := eval_unary_eq_number infinite h
    · obtain ⟨flips, leaf, passes, value⟩ := e.passes own infinite
      exact ⟨flips, leaf, .plus passes, value⟩
    · obtain ⟨flips, leaf, passes, value⟩ := e.passes own infinite'
      refine ⟨!flips, leaf, .minus passes, ?_⟩
      rw [signed_not_neg, value]
  | .arith op a b, x, h, infinite => absurd (isFinite_of_eval_arith h) infinite
  | .compare first rest, x, h, _ => by
    rw [Expr.eval] at h
    obtain ⟨v, -, h⟩ := bind_eq_ok.1 h
    obtain ⟨y, -, h⟩ := bind_eq_ok.1 h
    obtain ⟨b, same⟩ := evalRelated_eq_ok h
    cases same
  | .connect op operands, x, h, _ => by
    rw [Expr.eval] at h
    obtain ⟨b, same⟩ := evalConnected_eq_ok h
    cases same
  | .call f args, x, h, infinite => by
    have each := passes_of_argument args
    obtain ⟨c, t, e, v, b, choice, same, condition, truth, branch⟩ :=
      eval_call_eq_number infinite h
    have mem : (if b then t else e) ∈ args := by
      rw [same]
      cases b <;> simp
    obtain ⟨flips, leaf, passes, value⟩ := each _ mem branch infinite
    rw [choice, same]
    exact ⟨flips, leaf, .chosen condition truth passes, value⟩

/-- Arguments of a call that are not finite are passed on as formulas by themselves are. -/
lemma passes_of_argument : (es : List Expr) → ∀ e ∈ es, ∀ {x},
    e.eval functions bindings = .ok (.number x) → ¬Number.isFinite x →
      ∃ flips leaf, Passes functions bindings e flips leaf ∧
        leaf.value bindings = .ok (.number (signed flips x))
  | [], e, mem, x, h, infinite => nomatch mem
  | e' :: rest, e, mem, x, h, infinite => by
    rcases List.mem_cons.1 mem with same | mem
    · rw [same] at h ⊢
      exact e'.passes h infinite
    · exact passes_of_argument rest e mem h infinite

end

/-! ## Where numbers that are not finite come from -/

/-- The leaf writes a double, or it is a name that stands for one. -/
def Leaf.IsDouble (bindings : Bindings) : Leaf → Float → Prop
  | .literal l, x => l = .float x
  | .name n, x => bindings n = some (.float x)

/-- Integers have finite doubles, so a leaf with another number is one with a double. -/
lemma Leaf.isDouble {leaf : Leaf} {x : Float} (h : leaf.value bindings = .ok (.number x))
    (infinite : ¬Number.isFinite x) : leaf.IsDouble bindings x := by
  have integers {n : ℤ} {v : Value} (h : (do return Value.number (← ofInteger n)) = Except.ok v)
      (same : v = .number x) : False := by
    obtain ⟨y, own, h⟩ := bind_eq_ok.1 h
    obtain rfl := pure_eq_ok.1 h
    cases same
    rw [ofInteger] at own
    split at own
    case h_1 found =>
      cases own
      exact infinite (Number.isFinite_iff.2 (Decimal.isFinite_of_floatOfInt? found))
    case h_2 => cases own
  cases leaf with
  | literal l =>
    cases l with
    | integer n => exact (integers h rfl).elim
    | float y =>
      cases h
      rfl
  | name n =>
    rw [Leaf.value, lookup] at h
    split at h
    case h_1 => cases h
    case h_2 => cases h
    case h_3 => cases h
    case h_4 => exact (integers h rfl).elim
    case h_5 own =>
      cases h
      exact own
    case h_6 =>
      obtain ⟨xs, -, h⟩ := bind_eq_ok.1 h
      cases h

/-- A formula that computes a number that is not finite passes on a double. -/
lemma Expr.exists_passes {e : Expr} {x : Float} (computed : e.number functions bindings = .ok x)
    (infinite : ¬Number.isFinite x) : ∃ flips leaf y, Passes functions bindings e flips leaf ∧
      leaf.IsDouble bindings y ∧ ¬Number.isFinite y ∧ x = signed flips y := by
  obtain ⟨v, own, number⟩ := bind_eq_ok.1 computed
  rw [asNumber_eq_ok number infinite] at own
  obtain ⟨flips, leaf, passes, value⟩ := e.passes own infinite
  have infinite' : ¬Number.isFinite (signed flips x) := mt (isFinite_signed flips x).1 infinite
  exact ⟨flips, leaf, signed flips x, passes, Leaf.isDouble value infinite', infinite',
    (signed_signed flips x).symm⟩

/-- A formula computes a number that is not finite only by passing on a double that it writes or
that a name stands for, with the other sign or not. So it computes finite numbers where these are
finite, whatever is in arrays. -/
theorem evaluate_passes_on (functions : Functions) {bindings : Bindings} {text : String} {x : Float}
    (computed : evaluate functions bindings text = .ok x) :
    (¬Number.isFinite x → ∃ e flips leaf y, parse text = .ok e ∧
      Passes functions bindings e flips leaf ∧ leaf.IsDouble bindings y ∧ x = signed flips y) ∧
    ((∀ e, parse text = .ok e → ∀ y, .literal (.float y) ∈ e.leaves → Number.isFinite y) →
      (∀ n y, bindings n = some (.float y) → Number.isFinite y) → Number.isFinite x) := by
  rw [evaluate] at computed
  cases parsed : parse text with
  | error cause =>
    rw [parsed] at computed
    cases computed
  | ok e =>
    rw [parsed] at computed
    constructor
    · intro infinite
      obtain ⟨flips, leaf, y, passes, double, -, same⟩ := e.exists_passes computed infinite
      exact ⟨e, flips, leaf, y, rfl, passes, double, same⟩
    · intro literals names
      by_contra infinite
      obtain ⟨flips, leaf, y, passes, double, infinite', -⟩ := e.exists_passes computed infinite
      cases leaf with
      | literal l =>
        cases double
        exact infinite' (literals e rfl y passes.mem_leaves)
      | name n => exact infinite' (names n y double)

/-- The distance with the other sign, unless it is zero; then the mean of what was measured. -/
def reversed : String := "if(d > 0, -d, AVG(samples))"

/-- A distance, and what was measured. -/
def measured (d : Float) (samples : List Float) : Bindings :=
  Bindings.bind (fun n => if n = "d" then some (.float d) else none) "samples" (.ofSamples samples)

/-- An infinite distance is passed on with the other sign; a finite one is finite so, whatever was
measured. -/
theorem distance_passed_on :
    evaluate standard (measured Number.infinity []) reversed = .ok (-Number.infinity) ∧
      ¬Number.isFinite (-Number.infinity) ∧
      (∃ e flips leaf y, parse reversed = .ok e ∧
        Passes standard (measured Number.infinity []) e flips leaf ∧
        leaf.IsDouble (measured Number.infinity []) y ∧ -Number.infinity = signed flips y) ∧
      evaluate standard (measured 2 [Number.infinity]) reversed = .ok (-2) ∧
      Number.isFinite (-2) := by
  have computed : evaluate standard (measured Number.infinity []) reversed =
      .ok (-Number.infinity) := by decide +kernel
  have computed' : evaluate standard (measured 2 [Number.infinity]) reversed = .ok (-2) := by
    decide +kernel
  have infinite : ¬Number.isFinite (-Number.infinity) := by decide +kernel
  refine ⟨computed, infinite, (evaluate_passes_on standard computed).1 infinite, computed', ?_⟩
  refine (evaluate_passes_on standard computed').2 ?_ ?_
  · have leaves : (parse reversed).map Expr.leaves =
        .ok [.name "d", .literal (.integer 0), .name "d", .name "samples"] := by decide +kernel
    intro e parsed y mem
    rw [parsed] at leaves
    rw [Except.ok.inj leaves] at mem
    simp at mem
  · intro n y bound
    rw [measured, Bindings.bind] at bound
    split at bound
    case isTrue => cases bound
    case isFalse =>
      split at bound
      case isTrue =>
        cases bound
        decide +kernel
      case isFalse => cases bound

end Formula

end Inspection
