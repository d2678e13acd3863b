import Inspection.Resolution
import Inspection.Proofs.Formula.References

/-!
# Where formulas halt

An evaluation that computes no number halts at one of the formula's leaves, at a function that it
calls, or by a failure of the computation itself (`Expr.halts`). So a formula that can be read does
not fail for a cause of scope where every name that it mentions is bound
(`evaluateText_in_scope`), and where names stand for doubles only, all that stops it other than a
failure is a written integer beyond the greatest double (`evaluateText_of_doubles`).
-/

namespace Inspection

namespace Formula

/-- Whether a cause lies in the text of a formula or in the names that are there, and not in what is
computed. -/
def Cause.isScoping : Cause → Bool
  | unworkable _ | empty | malformed | unsupported _ | unknownName _ => true
  | _ => false

/-- The value of a leaf. -/
def Leaf.value (bindings : Bindings) : Leaf → Except Halt Value
  | literal l => l.value
  | name n => lookup bindings n

/-- All that can halt an evaluation: a leaf without a value, a function without a number to answer,
or a computation that fails. -/
inductive Halts (functions : Functions) (bindings : Bindings) (leaves : List Leaf) : Halt → Prop
  | leaf {l halt} :
    l ∈ leaves →
    l.value bindings = .error halt →
    Halts functions bindings leaves halt
  | answer {f function args halt} :
    functions f = some function →
    answered f (function args) = .error halt →
    Halts functions bindings leaves halt
  | computation {cause} :
    cause.isScoping = false →
    Halts functions bindings leaves (.failure cause)

section

variable {functions : Functions} {bindings : Bindings} {leaves more : List Leaf} {halt : Halt}

/-- What halts a formula also halts one of which it is a part. -/
lemma Halts.mono (h : Halts functions bindings leaves halt) (sub : leaves ⊆ more) :
    Halts functions bindings more halt := by
  cases h with
  | leaf mem none => exact .leaf (sub mem) none
  | answer defined none => exact .answer defined none
  | computation cause => exact .computation cause

/-- What halts the left part halts the whole. -/
lemma Halts.left (h : Halts functions bindings leaves halt) :
    Halts functions bindings (leaves ++ more) halt :=
  h.mono (List.subset_append_left _ _)

/-- What halts the right part halts the whole. -/
lemma Halts.right (h : Halts functions bindings leaves halt) :
    Halts functions bindings (more ++ leaves) halt :=
  h.mono (List.subset_append_right _ _)

/-- An array where a number is needed is a failure of the computation. -/
lemma halts_of_asNumber {v : Value} {role : Role} (h : v.asNumber role = .error halt) :
    Halts functions bindings leaves halt := by
  rw [Value.asNumber] at h
  split at h
  case h_1 => cases h
  case h_2 =>
    cases h
    exact .computation rfl

/-- An array as a condition is a failure of the computation. -/
lemma halts_of_holds {v : Value} (h : v.holds = .error halt) :
    Halts functions bindings leaves halt := by
  cases v with
  | flag b => cases h
  | number x => cases h
  | array xs =>
    cases h
    exact .computation rfl

/-- A number that is not finite is a failure of the computation. -/
lemma halts_of_finite {x : Float} (h : finite x = .error halt) :
    Halts functions bindings leaves halt := by
  rw [finite] at h
  split at h
  case isTrue => cases h
  case isFalse =>
    cases h
    exact .computation rfl

/-- An operator before an operand fails by its computation only. -/
lemma halts_of_unary {op : Unary} {v : Value} (h : op.apply v = .error halt) :
    Halts functions bindings leaves halt := by
  cases op with
  | not =>
    obtain h | ⟨b, -, h⟩ := bind_eq_error.1 h
    · exact halts_of_holds h
    · cases h
  | plus =>
    obtain h | ⟨x, -, h⟩ := bind_eq_error.1 h
    · exact halts_of_asNumber h
    · cases h
  | minus =>
    obtain h | ⟨x, -, h⟩ := bind_eq_error.1 h
    · exact halts_of_asNumber h
    · cases h

/-- An operator between two numbers fails by its computation only. -/
lemma halts_of_arith {op : Arith} {x y : Float} (h : op.apply x y = .error halt) :
    Halts functions bindings leaves halt := by
  cases op with
  | add => exact halts_of_finite h
  | sub => exact halts_of_finite h
  | mul => exact halts_of_finite h
  | div =>
    rw [Arith.apply] at h
    split at h
    case isTrue =>
      cases h
      exact .computation rfl
    case isFalse => exact halts_of_finite h
  | pow =>
    rw [Arith.apply] at h
    split at h
    case h_1 => exact halts_of_finite h
    all_goals
      cases h
      exact .computation rfl

/-- Arguments are evaluated unless one of them halts. -/
lemma halts_of_evalAll {es : List Expr}
    (each : ∀ e ∈ es, ∀ {halt}, e.eval functions bindings = .error halt →
      Halts functions bindings leaves halt)
    (h : evalAll functions bindings es = .error halt) : Halts functions bindings leaves halt := by
  induction es with
  | nil => cases h
  | cons e rest ih =>
    rw [evalAll] at h
    obtain h | ⟨v, -, h⟩ := bind_eq_error.1 h
    · exact each e List.mem_cons_self h
    obtain h | ⟨vs, -, h⟩ := bind_eq_error.1 h
    · exact ih (fun e mem => each e (List.mem_cons_of_mem _ mem)) h
    · cases h

/-- Connected conditions are evaluated unless one of them halts. -/
lemma halts_of_evalConnected {op : Connective} {es : List Expr}
    (each : ∀ e ∈ es, ∀ {halt}, e.eval functions bindings = .error halt →
      Halts functions bindings leaves halt)
    (h : evalConnected functions bindings op es = .error halt) :
    Halts functions bindings leaves halt := by
  induction es with
  | nil => cases h
  | cons e rest ih =>
    rw [evalConnected] at h
    obtain h | ⟨v, -, h⟩ := bind_eq_error.1 h
    · exact each e List.mem_cons_self h
    obtain h | ⟨b, -, h⟩ := bind_eq_error.1 h
    · exact halts_of_holds h
    split at h
    case isTrue => cases h
    case isFalse => exact ih (fun e mem => each e (List.mem_cons_of_mem _ mem)) h

/-- A chain of comparisons is evaluated unless an operand halts. -/
lemma halts_of_evalRelated {es : List (Relation × Expr)} {x : Float}
    (each : ∀ e ∈ es, ∀ {halt}, e.2.eval functions bindings = .error halt →
      Halts functions bindings leaves halt)
    (h : evalRelated functions bindings x es = .error halt) :
    Halts functions bindings leaves halt := by
  induction es generalizing x with
  | nil => cases h
  | cons e rest ih =>
    rw [evalRelated] at h
    obtain h | ⟨v, -, h⟩ := bind_eq_error.1 h
    · exact each e List.mem_cons_self h
    obtain h | ⟨y, -, h⟩ := bind_eq_error.1 h
    · exact halts_of_asNumber h
    split at h
    case isTrue => exact ih (fun e mem => each e (List.mem_cons_of_mem _ mem)) h
    case isFalse => cases h

mutual

/-- An evaluation halts at a leaf of the formula, at a function that it calls, or by its
computation. -/
lemma Expr.halts : (e : Expr) → ∀ {halt}, e.eval functions bindings = .error halt →
    Halts functions bindings e.leaves halt
  | .literal l, halt, h => .leaf List.mem_cons_self h
  | .name n, halt, h => .leaf List.mem_cons_self h
  | .unary op e, halt, h => by
    rw [Expr.eval] at h
    obtain h | ⟨v, -, h⟩ := bind_eq_error.1 h
    · exact e.halts h
    · exact halts_of_unary h
  | .arith op a b, halt, h => by
    rw [Expr.eval] at h
    obtain h | ⟨v, -, h⟩ := bind_eq_error.1 h
    · exact (a.halts h).left
    obtain h | ⟨x, -, h⟩ := bind_eq_error.1 h
    · exact halts_of_asNumber h
    obtain h | ⟨w, -, h⟩ := bind_eq_error.1 h
    · exact (b.halts h).right
    obtain h | ⟨y, -, h⟩ := bind_eq_error.1 h
    · exact halts_of_asNumber h
    · exact halts_of_arith h
  | .compare first rest, halt, h => by
    rw [Expr.eval] at h
    obtain h | ⟨v, -, h⟩ := bind_eq_error.1 h
    · exact (first.halts h).left
    obtain h | ⟨x, -, h⟩ := bind_eq_error.1 h
    · exact halts_of_asNumber h
    · exact halts_of_evalRelated (fun e mem _ h => (halts_of_related rest e mem h).right) h
  | .connect op operands, halt, h => by
    rw [Expr.eval] at h
    exact halts_of_evalConnected (halts_of_operand operands) h
  | .call f args, halt, h => by
    have each := halts_of_operand args
    rw [Expr.leaves]
    rw [Expr.eval.eq_def] at h
    dsimp only at h
    split at h
    -- the conditional, of which only the chosen branch is evaluated
    case isTrue =>
      split at h
      case h_1 c t e =>
        obtain h | ⟨v, -, h⟩ := bind_eq_error.1 h
        · exact each c (by simp) h
        obtain h | ⟨b, -, h⟩ := bind_eq_error.1 h
        · exact halts_of_holds h
        split at h
        case isTrue => exact each t (by simp) h
        case isFalse => exact each e (by simp) h
      case h_2 =>
        cases h
        exact .computation rfl
    case isFalse =>
      split at h
      case h_1 =>
        cases h
        exact .computation rfl
      case h_2 function defined =>
        obtain h | ⟨vs, -, h⟩ := bind_eq_error.1 h
        · exact halts_of_evalAll each h
        · exact .answer defined h

/-- One of several operands halts as a formula by itself does. -/
lemma halts_of_operand : (es : List Expr) → ∀ e ∈ es, ∀ {halt},
    e.eval functions bindings = .error halt → Halts functions bindings (leavesOfAll es) halt
  | [], e, mem, halt, h => nomatch mem
  | e' :: rest, e, mem, halt, h => by
    rcases List.mem_cons.1 mem with same | mem
    · rw [same] at h
      exact (e'.halts h).left
    · exact (halts_of_operand rest e mem h).right

/-- One of several compared operands halts as a formula by itself does. -/
lemma halts_of_related : (es : List (Relation × Expr)) → ∀ e ∈ es, ∀ {halt},
    e.2.eval functions bindings = .error halt →
      Halts functions bindings (leavesOfRelated es) halt
  | [], e, mem, halt, h => nomatch mem
  | (r, e') :: rest, e, mem, halt, h => by
    rcases List.mem_cons.1 mem with same | mem
    · rw [same] at h
      exact (e'.halts h).left
    · exact (halts_of_related rest e mem h).right

end

end

/-- An answer that is no number is a failure of the computation, and an integer may be too large. -/
lemma answered_eq_error {name : String} {answer : Except Misuse Answer} {halt : Halt}
    (h : answered name answer = .error halt) :
    (∃ cause, halt = .failure cause ∧ cause.isScoping = false) ∨
      ∃ n, answer = .ok (.integer n) := by
  unfold answered at h
  split at h
  case h_1 =>
    cases h
    exact .inl ⟨_, rfl, rfl⟩
  case h_2 =>
    cases h
    exact .inl ⟨_, rfl, rfl⟩
  case h_3 =>
    rw [finite] at h
    split at h
    case isTrue => cases h
    case isFalse =>
      cases h
      exact .inl ⟨_, rfl, rfl⟩
  case h_4 n => exact .inr ⟨n, rfl⟩

/-- A function that answers no integer. -/
def AnswersDoubles (function : Function) : Prop :=
  ∀ args n, function args ≠ .ok (.integer n)

/-- The mean is a double. -/
lemma average_answers : AnswersDoubles average := by
  intro args n h
  unfold average at h
  split at h
  case h_3 => split at h <;> cases h
  all_goals cases h

/-- The square root is a double. -/
lemma squareRoot_answers : AnswersDoubles squareRoot := by
  intro args n h
  unfold squareRoot at h
  split at h
  case h_2 =>
    obtain ⟨x, -, h⟩ := bind_eq_ok.1 h
    split at h <;> cases h
  all_goals cases h

/-- The power is a double. -/
lemma powerFunction_answers : AnswersDoubles powerFunction := by
  intro args n h
  unfold powerFunction at h
  split at h
  case h_3 =>
    obtain ⟨x, -, h⟩ := bind_eq_ok.1 h
    obtain ⟨y, -, h⟩ := bind_eq_ok.1 h
    split at h <;> cases h
  all_goals cases h

/-- The magnitude is a double. -/
lemma absolute_answers : AnswersDoubles absolute := by
  intro args n h
  unfold absolute at h
  split at h
  case h_2 =>
    obtain ⟨x, -, h⟩ := bind_eq_ok.1 h
    cases h
  all_goals cases h

/-- The least and the greatest of numbers are doubles. -/
lemma extreme_answers {precedes : Float → Float → Bool} {name : String} :
    AnswersDoubles (extreme precedes name) := by
  intro args n h
  unfold extreme at h
  split at h <;> cases h

/-- What holds of each standard function holds of what a formula calls. -/
lemma standard_forall {holds : Function → Prop} (each : ∀ entry ∈ standardFunctions, holds entry.2)
    {f : String} {function : Function} (defined : standard f = some function) : holds function := by
  obtain ⟨before, rest, table, -⟩ := List.lookup_eq_some_iff.1 defined
  exact each (f, function) (by simp [table])

/-- The functions that every formula may call answer doubles. -/
lemma standard_answers {f : String} {function : Function} (defined : standard f = some function) :
    AnswersDoubles function := by
  refine standard_forall ?_ defined
  simp only [standardFunctions, List.forall_mem_cons]
  exact ⟨average_answers, squareRoot_answers, powerFunction_answers, absolute_answers,
    extreme_answers, extreme_answers, nofun⟩

/-- A number without a value is an integer beyond the greatest double. -/
lemma Literal.value_eq_error {l : Literal} {halt : Halt} (h : l.value = .error halt) :
    halt = .hugeInteger ∧ ∃ n : Nat, l = .integer n ∧ Decimal.floatOfInt? n = none := by
  cases l with
  | float x => cases h
  | integer n =>
    obtain h | ⟨x, -, h⟩ := bind_eq_error.1 h
    · rw [ofInteger] at h
      split at h
      case h_1 => cases h
      case h_2 none =>
        cases h
        exact ⟨rfl, n, rfl, none⟩
    · cases h

/-- The items of an array have no doubles only where an integer has none. -/
lemma itemNumbers_eq_error {items : List (Int ⊕ Float)} {halt : Halt}
    (h : itemNumbers items = .error halt) : halt = .hugeInteger := by
  induction items with
  | nil => cases h
  | cons item rest ih =>
    cases item with
    | inl n =>
      obtain h | ⟨x, -, h⟩ := bind_eq_error.1 h
      · rw [ofInteger] at h
        split at h
        case h_1 => cases h
        case h_2 =>
          cases h
          rfl
      obtain h | ⟨xs, -, h⟩ := bind_eq_error.1 h
      · exact ih h
      · cases h
    | inr x =>
      obtain h | ⟨xs, -, h⟩ := bind_eq_error.1 h
      · exact ih h
      · cases h

/-- A name fails for a cause of scope only where it is not bound. -/
lemma lookup_unbound {bindings : Bindings} {name : String} {cause : Cause}
    (h : lookup bindings name = .error (.failure cause)) (scoping : cause.isScoping) :
    bindings name = none ∧ cause = .unknownName name := by
  rw [lookup] at h
  split at h
  case h_1 none =>
    cases h
    exact ⟨none, rfl⟩
  case h_2 =>
    cases h
    cases scoping
  case h_3 => cases h
  case h_4 =>
    obtain h | ⟨x, -, h⟩ := bind_eq_error.1 h
    · rw [ofInteger] at h
      split at h <;> cases h
    · cases h
  case h_5 => cases h
  case h_6 =>
    obtain h | ⟨xs, -, h⟩ := bind_eq_error.1 h
    · cases itemNumbers_eq_error h
    · cases h

/-- No function answers with a cause of scope. -/
lemma answered_not_scoping {name : String} {answer : Except Misuse Answer} {cause : Cause}
    (h : answered name answer = .error (.failure cause)) : cause.isScoping = false := by
  obtain ⟨cause, e, own⟩ | ⟨n, rfl⟩ := answered_eq_error h
  · cases e
    exact own
  obtain h | ⟨x, -, h⟩ := bind_eq_error.1 h
  · rw [ofInteger] at h
    split at h <;> cases h
  · rw [finite] at h
    split at h
    case isTrue => cases h
    case isFalse =>
      cases h
      rfl

/-- An evaluation fails for a cause of scope only at a name that is not bound, whatever functions
there are. -/
lemma Halts.unbound {functions : Functions} {bindings : Bindings} {leaves : List Leaf}
    {cause : Cause} (h : Halts functions bindings leaves (.failure cause))
    (scoping : cause.isScoping) :
    ∃ n, .name n ∈ leaves ∧ bindings n = none ∧ cause = .unknownName n := by
  generalize e : Halt.failure cause = halt at h
  cases h with
  | @leaf l _ mem h =>
    cases e
    cases l with
    | literal l => cases (Literal.value_eq_error h).1
    | name n =>
      obtain ⟨none, name⟩ := lookup_unbound h scoping
      exact ⟨n, mem, none, name⟩
  | answer defined h =>
    cases e
    rw [answered_not_scoping h] at scoping
    cases scoping
  | computation own =>
    cases e
    rw [scoping] at own
    cases own

/-- Names that stand for doubles and for the samples of items only. -/
def Bindings.OfDoubles (bindings : Bindings) : Prop :=
  ∀ n binding, bindings n = some binding →
    (∃ x, binding = .float x) ∨ ∃ xs, binding = .ofSamples xs

/-- The items of an array of doubles are these. -/
lemma itemNumbers_ofSamples (xs : List Float) : itemNumbers (xs.map .inr) = .ok xs := by
  induction xs with
  | nil => rfl
  | cons x rest ih =>
    rw [List.map_cons, itemNumbers, ih]
    rfl

/-- Names that stand for doubles have values, unless they are not bound. -/
lemma Bindings.OfDoubles.lookup {bindings : Bindings} (doubles : bindings.OfDoubles)
    {name : String} {halt : Halt} (h : lookup bindings name = .error halt) :
    halt = .failure (.unknownName name) := by
  cases bound : bindings name with
  | none =>
    rw [Formula.lookup, bound] at h
    cases h
    rfl
  | some binding =>
    rw [Formula.lookup, bound] at h
    obtain ⟨x, rfl⟩ | ⟨xs, rfl⟩ := doubles name binding bound
    · cases h
    · simp only [Binding.ofSamples, itemNumbers_ofSamples] at h
      cases h

/-- The text writes a formula with an integer beyond the greatest double in it. -/
def WritesHuge (text : String) : Prop :=
  ∃ e, parse text = .ok e ∧ ∃ n : Nat, .literal (.integer n) ∈ e.leaves ∧
    Decimal.floatOfInt? n = none

/-- Where names stand for doubles, all that halts an evaluation other than a failure is a written
integer beyond the greatest double. -/
lemma Halts.of_doubles {bindings : Bindings} (doubles : bindings.OfDoubles) {leaves : List Leaf}
    {halt : Halt} (h : Halts standard bindings leaves halt) :
    (∃ cause, halt = .failure cause) ∨ halt = .hugeInteger ∧
      ∃ n : Nat, .literal (.integer n) ∈ leaves ∧ Decimal.floatOfInt? n = none := by
  cases h with
  | @leaf l _ mem h =>
    cases l with
    | literal l =>
      obtain ⟨huge, n, rfl, none⟩ := Literal.value_eq_error h
      exact .inr ⟨huge, n, mem, none⟩
    | name n => exact .inl ⟨_, doubles.lookup h⟩
  | answer defined h =>
    obtain ⟨cause, e, -⟩ | ⟨n, integer⟩ := answered_eq_error h
    · exact .inl ⟨cause, e⟩
    · exact absurd integer (standard_answers defined _ n)
  | computation => exact .inl ⟨_, rfl⟩

/-- A formula computes no number where its evaluation halts, or where its value is an array. -/
lemma Expr.number_eq_error {functions : Functions} {bindings : Bindings} {e : Expr} {halt : Halt}
    (h : e.number functions bindings = .error halt) : Halts functions bindings e.leaves halt := by
  obtain h | ⟨v, -, h⟩ := bind_eq_error.1 h
  · exact e.halts h
  · exact halts_of_asNumber h

end Formula

open Formula

/-- A formula that can be read fails for a cause of scope only at a name that it mentions and that
is not bound. -/
theorem evaluateText_unbound {bindings : Bindings} {text : String} {r : References}
    (read : references text = .ok r) {failure : Failure}
    (h : evaluateText bindings text = .ok (.error failure)) (scoping : failure.cause.isScoping) :
    ∃ n, r.Mentions n ∧ bindings n = none ∧ failure = ⟨text, .unknownName n⟩ := by
  obtain ⟨e, parsed, rfl⟩ := references_eq_ok.1 read
  rw [evaluateText, evaluate, parsed] at h
  dsimp only at h
  split at h
  case h_1 => cases h
  case h_2 cause halted =>
    cases h
    obtain ⟨n, mem, none, rfl⟩ := (Expr.number_eq_error halted).unbound scoping
    exact ⟨n, name_mem_leaves.1 mem, none, rfl⟩
  case h_3 => cases h

/-- A formula whose names are all bound does not fail for a cause of scope. -/
theorem evaluateText_in_scope {bindings : Bindings} {text : String} {r : References}
    (read : references text = .ok r) (bound : ∀ n, r.Mentions n → (bindings n).isSome)
    {failure : Failure} (h : evaluateText bindings text = .ok (.error failure)) :
    failure.cause.isScoping = false := by
  by_contra scoping
  obtain ⟨n, mention, none, -⟩ := evaluateText_unbound read h (by simpa using scoping)
  have some := bound n mention
  rw [none] at some
  cases some

/-- Where names stand for doubles, all that stops a formula other than a failure is an integer
beyond the greatest double that it writes. -/
theorem evaluateText_of_doubles {bindings : Bindings} (doubles : bindings.OfDoubles)
    {text : String} {fault : Fault} (h : evaluateText bindings text = .error fault) :
    fault = .overflow .hugeInteger ∧ WritesHuge text := by
  rw [evaluateText, evaluate] at h
  cases parsed : parse text with
  | error cause =>
    rw [parsed] at h
    cases h
  | ok e =>
    rw [parsed] at h
    dsimp only at h
    split at h
    case h_1 => cases h
    case h_2 => cases h
    case h_3 halt other halted =>
      cases h
      obtain ⟨cause, rfl⟩ | ⟨rfl, n, mem, none⟩ :=
        (Expr.number_eq_error halted).of_doubles doubles
      · cases other cause rfl
      · exact ⟨rfl, e, parsed, n, mem, none⟩

end Inspection
