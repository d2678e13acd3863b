import Inspection.Proofs.Decimal.Range
import Inspection.Proofs.Formula.Halting

/-!
# Faults that escape from formulas

An evaluation goes to the leaves of a formula from left to right, and to no more of them than it
needs (`Expr.visited`). What ends it other than a failure is one of these leaves that has no value
(`Expr.eval_eq_halt_iff`). So where names stand for numbers and arrays of numbers, a formula
computes a number or fails with an error of its own, unless it comes to an integer beyond the
greatest double or its text cannot be worked with (`evaluate_faults`).
-/

namespace Inspection

namespace Formula

/-! ## The leaves that are visited -/

/-- The leaves that are visited once a step has a value. -/
def after {α : Type} (x : Except Halt α) (next : α → List Leaf) : List Leaf :=
  match x with
  | .ok a => next a
  | .error _ => []

section

variable (functions : Functions) (bindings : Bindings)

mutual

/-- The leaves of a formula that its evaluation comes to, from left to right. -/
def Expr.visited : Expr → List Leaf
  | .literal l => [.literal l]
  | .name n => [.name n]
  | .unary _ e => e.visited
  | .arith _ a b =>
    a.visited ++ after (a.eval functions bindings >>= fun v => v.asNumber .leftOperand)
      fun _ => b.visited
  | .compare first rest =>
    first.visited ++
      after (first.eval functions bindings >>= fun v => v.asNumber .comparisonOperand)
        fun x => visitedRelated x rest
  | .connect op operands => visitedConnected op operands
  | .call f args =>
    if f = choiceName then
      match args with
      | [c, t, e] =>
        c.visited ++ after (c.eval functions bindings >>= Value.holds)
          fun b => if b then t.visited else e.visited
      | _ => []
    else if (functions f).isSome then visitedAll args else []

/-- The leaves of arguments that are visited. -/
def visitedAll : List Expr → List Leaf
  | [] => []
  | e :: rest => e.visited ++ after (e.eval functions bindings) fun _ => visitedAll rest

/-- The leaves of compared operands that are visited. -/
def visitedRelated (x : Float) : List (Relation × Expr) → List Leaf
  | [] => []
  | (r, e) :: rest =>
    e.visited ++ after (e.eval functions bindings >>= fun v => v.asNumber .comparisonOperand)
      fun y => if r.test x y then visitedRelated y rest else []

/-- The leaves of connected conditions that are visited. -/
def visitedConnected (op : Connective) : List Expr → List Leaf
  | [] => []
  | e :: rest =>
    e.visited ++ after (e.eval functions bindings >>= Value.holds)
      fun b => if op.decidedBy b then [] else visitedConnected op rest

end

end

/-! ## Halts that are no failures -/

/-- Functions none of which answers an integer. -/
def Functions.AnswerDoubles (functions : Functions) : Prop :=
  ∀ f function, functions f = some function → AnswersDoubles function

/-- A computation halts by a failure only. -/
lemma Halts.failure {halt : Halt} (h : Halts (fun _ => none) (fun _ => none) [] halt) :
    ∃ cause, halt = .failure cause := by
  cases h with
  | leaf mem => cases mem
  | answer defined => cases defined
  | computation => exact ⟨_, rfl⟩

/-- The evaluation meets a leaf that halts it so. -/
def Meets (bindings : Bindings) (halt : Halt) (leaves : List Leaf) : Prop :=
  ∃ l ∈ leaves, l.value bindings = .error halt

section

variable {functions : Functions} {bindings : Bindings} {halt : Halt} {α β : Type}

lemma not_meets_nil : ¬Meets bindings halt [] := by
  rintro ⟨l, mem, -⟩
  cases mem

lemma meets_singleton {l : Leaf} : Meets bindings halt [l] ↔ l.value bindings = .error halt := by
  simp [Meets]

lemma meets_append {first second : List Leaf} :
    Meets bindings halt (first ++ second) ↔
      Meets bindings halt first ∨ Meets bindings halt second := by
  simp only [Meets, List.mem_append, or_and_right, exists_or]

lemma meets_after {x : Except Halt α} {next : α → List Leaf} :
    Meets bindings halt (after x next) ↔ ∃ a, x = .ok a ∧ Meets bindings halt (next a) := by
  cases x with
  | error e => simp [after, not_meets_nil]
  | ok a => simp [after]

/-- A chain of two halts where its first step does, and else where the second one does. -/
lemma bind_eq_halt_iff {x : Except Halt α} {f : α → Except Halt β} {first : List Leaf}
    {next : α → List Leaf} (step : x = .error halt ↔ Meets bindings halt first)
    (later : ∀ a, f a = .error halt ↔ Meets bindings halt (next a)) :
    x >>= f = .error halt ↔ Meets bindings halt (first ++ after x next) := by
  rw [bind_eq_error, meets_append, meets_after, step]
  simp only [later]

/-- A step that fails only does not halt a chain otherwise. -/
lemma bind_eq_halt_of_failure {x : Except Halt α} {f : α → Except Halt β}
    (outer : ∀ cause, halt ≠ .failure cause)
    (later : ∀ a halt, f a = .error halt → ∃ cause, halt = .failure cause) :
    x >>= f = .error halt ↔ x = .error halt := by
  rw [bind_eq_error, or_iff_left_iff_imp]
  rintro ⟨a, -, h⟩
  obtain ⟨cause, same⟩ := later a halt h
  exact absurd same (outer cause)

lemma asNumber_failure {v : Value} {role : Role} {halt : Halt} (h : v.asNumber role = .error halt) :
    ∃ cause, halt = .failure cause :=
  (halts_of_asNumber h).failure

lemma holds_failure {v : Value} {halt : Halt} (h : v.holds = .error halt) :
    ∃ cause, halt = .failure cause :=
  (halts_of_holds h).failure

/-- Functions that answer doubles end by failures only. -/
lemma answered_failure {name : String} {function : Function} {args : List Value} {halt : Halt}
    (doubles : AnswersDoubles function) (h : answered name (function args) = .error halt) :
    ∃ cause, halt = .failure cause := by
  obtain ⟨cause, same, -⟩ | ⟨n, integer⟩ := answered_eq_error h
  · exact ⟨cause, same⟩
  · exact absurd integer (doubles args n)

/-- A value that has to be a number halts an evaluation where it does not come about. -/
lemma number_eq_halt_iff {x : Except Halt Value} {role : Role} {leaves : List Leaf}
    (outer : ∀ cause, halt ≠ .failure cause) (own : x = .error halt ↔ Meets bindings halt leaves) :
    (x >>= fun v => v.asNumber role) = .error halt ↔ Meets bindings halt leaves :=
  (bind_eq_halt_of_failure outer fun _ _ => asNumber_failure).trans own

/-- A value that has to be a condition halts an evaluation where it does not come about. -/
lemma condition_eq_halt_iff {x : Except Halt Value} {leaves : List Leaf}
    (outer : ∀ cause, halt ≠ .failure cause) (own : x = .error halt ↔ Meets bindings halt leaves) :
    (x >>= Value.holds) = .error halt ↔ Meets bindings halt leaves :=
  (bind_eq_halt_of_failure outer fun _ _ => holds_failure).trans own

mutual

/-- An evaluation ends otherwise than by a failure just if it comes to a leaf that ends it so. -/
lemma Expr.eval_eq_halt_iff (outer : ∀ cause, halt ≠ .failure cause)
    (doubles : functions.AnswerDoubles) : (e : Expr) →
      (e.eval functions bindings = .error halt ↔
        Meets bindings halt (e.visited functions bindings))
  | .literal l => by rw [Expr.eval, Expr.visited, meets_singleton, Leaf.value]
  | .name n => by rw [Expr.eval, Expr.visited, meets_singleton, Leaf.value]
  | .unary op e => by
    rw [Expr.eval, Expr.visited]
    exact (bind_eq_halt_of_failure outer fun _ _ h => (halts_of_unary h).failure).trans
      (e.eval_eq_halt_iff outer doubles)
  | .arith op a b => by
    have left := a.eval_eq_halt_iff outer doubles
    have right := b.eval_eq_halt_iff outer doubles
    rw [Expr.eval, Expr.visited, ← bind_assoc]
    refine bind_eq_halt_iff (number_eq_halt_iff outer left) fun x => ?_
    rw [← bind_assoc]
    exact (bind_eq_halt_of_failure outer fun _ _ h => (halts_of_arith h).failure).trans
      (number_eq_halt_iff outer right)
  | .compare first rest => by
    have own := first.eval_eq_halt_iff outer doubles
    rw [Expr.eval, Expr.visited, ← bind_assoc]
    exact bind_eq_halt_iff (number_eq_halt_iff outer own) fun x =>
      related_eq_halt_iff outer doubles rest
  | .connect op operands => by
    rw [Expr.eval, Expr.visited]
    exact connected_eq_halt_iff outer doubles operands
  | .call f args => by
    rw [Expr.eval.eq_def, Expr.visited.eq_def]
    dsimp only
    by_cases choice : f = choiceName
    -- a conditional visits one branch only, so its arguments are not taken together
    · rw [if_pos choice, if_pos choice]
      match args with
      | [c, t, e] =>
        have condition := c.eval_eq_halt_iff outer doubles
        dsimp only
        rw [← bind_assoc]
        refine bind_eq_halt_iff (condition_eq_halt_iff outer condition) fun b => ?_
        cases b with
        | true => exact t.eval_eq_halt_iff outer doubles
        | false => exact e.eval_eq_halt_iff outer doubles
      | [] | [_] | [_, _] | _ :: _ :: _ :: _ :: _ =>
        exact iff_of_false (fun h => outer _ (Except.error.inj h).symm) not_meets_nil
    · rw [if_neg choice, if_neg choice]
      cases defined : functions f with
      | none => exact iff_of_false (fun h => outer _ (Except.error.inj h).symm) not_meets_nil
      | some function =>
        refine (bind_eq_halt_of_failure outer fun _ _ => ?_).trans
          (all_eq_halt_iff outer doubles args)
        exact answered_failure (doubles f function defined)

/-- Arguments are evaluated unless one of them ends the evaluation. -/
lemma all_eq_halt_iff (outer : ∀ cause, halt ≠ .failure cause)
    (doubles : functions.AnswerDoubles) : (es : List Expr) →
      (evalAll functions bindings es = .error halt ↔
        Meets bindings halt (visitedAll functions bindings es))
  | [] => iff_of_false nofun not_meets_nil
  | e :: rest => by
    rw [evalAll, visitedAll]
    refine bind_eq_halt_iff (e.eval_eq_halt_iff outer doubles) fun v => ?_
    exact (bind_eq_halt_of_failure outer nofun).trans (all_eq_halt_iff outer doubles rest)

/-- Compared operands are evaluated up to the first that fails the comparison, unless one of them
ends the evaluation. -/
lemma related_eq_halt_iff {x : Float} (outer : ∀ cause, halt ≠ .failure cause)
    (doubles : functions.AnswerDoubles) : (es : List (Relation × Expr)) →
      (evalRelated functions bindings x es = .error halt ↔
        Meets bindings halt (visitedRelated functions bindings x es))
  | [] => iff_of_false nofun not_meets_nil
  | (r, e) :: rest => by
    have own := e.eval_eq_halt_iff outer doubles
    rw [evalRelated, visitedRelated, ← bind_assoc]
    refine bind_eq_halt_iff (number_eq_halt_iff outer own) fun y => ?_
    split
    case isTrue => exact related_eq_halt_iff outer doubles rest
    case isFalse => exact iff_of_false nofun not_meets_nil

/-- Connected conditions are evaluated up to the first that decides, unless one of them ends the
evaluation. -/
lemma connected_eq_halt_iff {op : Connective} (outer : ∀ cause, halt ≠ .failure cause)
    (doubles : functions.AnswerDoubles) : (es : List Expr) →
      (evalConnected functions bindings op es = .error halt ↔
        Meets bindings halt (visitedConnected functions bindings op es))
  | [] => iff_of_false nofun not_meets_nil
  | e :: rest => by
    have own := e.eval_eq_halt_iff outer doubles
    rw [evalConnected, visitedConnected, ← bind_assoc]
    refine bind_eq_halt_iff (condition_eq_halt_iff outer own) fun b => ?_
    split
    case isTrue => exact iff_of_false nofun not_meets_nil
    case isFalse => exact connected_eq_halt_iff outer doubles rest

end

end

/-! ## Integers that are too large -/

/-- Names stand for numbers and arrays of numbers. -/
def Bindings.Numeric (bindings : Bindings) : Prop :=
  ∀ n binding, bindings n = some binding →
    (∃ m, binding = .integer m) ∨ (∃ x, binding = .float x) ∨ ∃ items, binding = .array items

/-- An integer that is rounded to no double, since it is too large. -/
def Huge (n : ℤ) : Prop :=
  2 ^ 1024 - 2 ^ 970 ≤ |n|

/-- The leaf is an integer that is too large, or a name that stands for one or for an array that
holds one. -/
def Leaf.Huge (bindings : Bindings) : Leaf → Prop
  | .literal l => ∃ n : ℕ, l = .integer n ∧ Formula.Huge n
  | .name n =>
    (∃ m, bindings n = some (.integer m) ∧ Formula.Huge m) ∨
      ∃ items m, bindings n = some (.array items) ∧ .inl m ∈ items ∧ Formula.Huge m

variable {bindings : Bindings}

lemma ofInteger_eq_error_iff {n : ℤ} {halt : Halt} :
    ofInteger n = .error halt ↔ halt = .hugeInteger ∧ Huge n := by
  rw [Huge, ← Decimal.floatOfInt?_eq_none_iff, ofInteger]
  cases Decimal.floatOfInt? n with
  | none => simp [eq_comm]
  | some x => simp

/-- What is made of a value ends an evaluation where the value does not come about. -/
lemma return_eq_error_iff {α β : Type} {x : Except Halt α} {f : α → β} {halt : Halt} :
    (do return f (← x)) = Except.error halt ↔ x = .error halt := by
  cases x with
  | error e => rw [error_bind, Except.error.injEq, Except.error.injEq]
  | ok a => exact iff_of_false nofun nofun

/-- The items of an array have no doubles just if one of them is an integer that is too large. -/
lemma itemNumbers_eq_huge_iff {items : List (ℤ ⊕ Float)} :
    itemNumbers items = .error .hugeInteger ↔ ∃ m, .inl m ∈ items ∧ Huge m := by
  induction items with
  | nil => simp [itemNumbers]
  | cons item rest ih =>
    cases item with
    | inl n =>
      rw [itemNumbers, bind_eq_error, ofInteger_eq_error_iff]
      simp only [return_eq_error_iff, ih, List.mem_cons, Sum.inl.injEq, true_and]
      constructor
      · rintro (own | ⟨x, -, m, mem, later⟩)
        · exact ⟨n, .inl rfl, own⟩
        · exact ⟨m, .inr mem, later⟩
      · rintro ⟨m, rfl | mem, huge⟩
        · exact .inl huge
        · cases own : ofInteger n with
          | error halt => exact .inl (ofInteger_eq_error_iff.1 own).2
          | ok x => exact .inr ⟨x, rfl, m, mem, huge⟩
    | inr x =>
      rw [itemNumbers, return_eq_error_iff, ih]
      simp

/-- A leaf ends an evaluation so just if its integer is too large. -/
lemma Leaf.value_eq_huge_iff {leaf : Leaf} :
    leaf.value bindings = .error .hugeInteger ↔ leaf.Huge bindings := by
  cases leaf with
  | literal l =>
    cases l with
    | integer n =>
      rw [Leaf.value, Literal.value, return_eq_error_iff, ofInteger_eq_error_iff, Leaf.Huge]
      simp
    | float x => simp [Leaf.value, Literal.value, Leaf.Huge]
  | name n =>
    rw [Leaf.value, lookup, Leaf.Huge]
    cases bindings n with
    | none => simp [fail]
    | some binding =>
      cases binding with
      | integer m =>
        dsimp only
        rw [return_eq_error_iff, ofInteger_eq_error_iff]
        simp
      | float x => simp
      | array items =>
        dsimp only
        rw [return_eq_error_iff, itemNumbers_eq_huge_iff]
        simp
      | notNumeric => simp [fail]
      | unreadable t => simp

/-- Where names stand for numbers, leaves have values or fail, unless an integer is too large. -/
lemma Bindings.Numeric.value (numeric : bindings.Numeric) {leaf : Leaf} {halt : Halt}
    (h : leaf.value bindings = .error halt) :
    (∃ cause, halt = .failure cause) ∨ halt = .hugeInteger := by
  cases leaf with
  | literal l => exact .inr (Literal.value_eq_error h).1
  | name n =>
    rw [Leaf.value, lookup] at h
    cases bound : bindings n with
    | none =>
      rw [bound] at h
      cases h
      exact .inl ⟨_, rfl⟩
    | some binding =>
      rw [bound] at h
      obtain ⟨m, rfl⟩ | ⟨x, rfl⟩ | ⟨items, rfl⟩ := numeric n binding bound
      · exact .inr (ofInteger_eq_error_iff.1 (return_eq_error_iff.1 h)).1
      · cases h
      · exact .inr (itemNumbers_eq_error (return_eq_error_iff.1 h))

/-! ## Faults -/

/-- What escapes from a formula's text that is no error of the formula. -/
inductive Escapes (bindings : Bindings) (text : String) : Fault → Prop
  /-- The text cannot be worked with. -/
  | unworkable {o} :
    parse text = .error (.unworkable o) →
    Escapes bindings text (.ofObstacle o)
  /-- The evaluation comes to an integer that is too large. -/
  | huge {e leaf} :
    parse text = .ok e →
    leaf ∈ e.visited standard bindings →
    leaf.Huge bindings →
    Escapes bindings text (.overflow .hugeInteger)

/-- A formula comes to an integer that is too large just if it ends so. -/
lemma Expr.number_eq_huge_iff {e : Expr} :
    e.number standard bindings = .error .hugeInteger ↔
      ∃ leaf ∈ e.visited standard bindings, leaf.Huge bindings := by
  have outer : ∀ cause, Halt.hugeInteger ≠ .failure cause := nofun
  have doubles : Functions.AnswerDoubles standard := fun _ _ => standard_answers
  rw [Expr.number, number_eq_halt_iff outer (e.eval_eq_halt_iff outer doubles), Meets]
  simp only [Leaf.value_eq_huge_iff]

/-- A formula that can be read does not fail as if its text could not be worked with. -/
lemma Expr.number_not_unworkable {e : Expr} {o : Obstacle} :
    e.number standard bindings ≠ .error (.failure (.unworkable o)) := by
  intro h
  obtain ⟨n, -, -, same⟩ := (Expr.number_eq_error h).unbound rfl
  cases same

/-- Where names stand for numbers, a formula ends without a number by a failure, unless it comes to
an integer that is too large. -/
lemma Bindings.Numeric.number (numeric : bindings.Numeric) {e : Expr} {halt : Halt}
    (h : e.number standard bindings = .error halt) :
    (∃ cause, halt = .failure cause) ∨ halt = .hugeInteger := by
  cases Expr.number_eq_error h with
  | leaf mem none => exact numeric.value none
  | answer defined none => exact .inl (answered_failure (standard_answers defined) none)
  | computation => exact .inl ⟨_, rfl⟩

/-- Where names stand for numbers and arrays of numbers, a formula's text computes a number or fails
with an error of its own, unless it cannot be worked with or the evaluation comes to an integer that
is too large; and then it does not. -/
theorem evaluate_faults (numeric : bindings.Numeric) (text : String) (fault : Fault) :
    (Outcome.of (Fault.ofHalt text) (evaluate standard bindings text) = .error fault →
      (∃ cause, fault = .error (.expression none none (some text) cause)) ∨
        Escapes bindings text fault) ∧
    (Escapes bindings text fault →
      Outcome.of (Fault.ofHalt text) (evaluate standard bindings text) = .error fault) := by
  have failed (cause : Cause) : (∃ o, cause = .unworkable o) ∨
      Fault.ofHalt text (.failure cause) = .error (.expression none none (some text) cause) := by
    cases cause
    case unworkable o => exact .inl ⟨o, rfl⟩
    all_goals exact .inr rfl
  rw [Outcome.of_eq_error, evaluate]
  constructor
  · rintro ⟨halt, h, rfl⟩
    cases parsed : parse text with
    | error cause =>
      rw [parsed] at h
      cases h
      obtain ⟨o, rfl⟩ | own := failed cause
      · exact .inr (.unworkable parsed)
      · exact .inl ⟨cause, own⟩
    | ok e =>
      rw [parsed] at h
      obtain ⟨cause, rfl⟩ | rfl := numeric.number h
      · obtain ⟨o, rfl⟩ | own := failed cause
        · exact absurd h Expr.number_not_unworkable
        · exact .inl ⟨cause, own⟩
      · obtain ⟨leaf, mem, huge⟩ := Expr.number_eq_huge_iff.1 h
        exact .inr (.huge parsed mem huge)
  · rintro (@⟨o, parsed⟩ | ⟨parsed, mem, huge⟩)
    · rw [parsed]
      exact ⟨_, rfl, rfl⟩
    · rw [parsed]
      exact ⟨_, Expr.number_eq_huge_iff.2 ⟨_, mem, huge⟩, rfl⟩

/-- The mean of what was measured, and the slack where there is a gap. -/
def slackened : String := "AVG(samples) + if(gap > 0, slack, 0)"

/-- A gap, a slack that is too large, and what was measured. -/
def withGap (gap : ℤ) : Bindings := fun n =>
  if n = "gap" then some (.integer gap)
  else if n = "slack" then some (.integer (10 ^ 400))
  else if n = "samples" then some (.array [.inl 2, .inr 4])
  else none

lemma withGap_numeric (gap : ℤ) : (withGap gap).Numeric := by
  intro n binding bound
  rw [withGap] at bound
  split_ifs at bound
  · exact .inl ⟨_, (Option.some.inj bound).symm⟩
  · exact .inl ⟨_, (Option.some.inj bound).symm⟩
  · exact .inr (.inr ⟨_, (Option.some.inj bound).symm⟩)

/-- A slack that is too large escapes, but only where there is a gap. -/
theorem slack_escapes :
    (withGap 1).Numeric ∧
      Outcome.of (Fault.ofHalt slackened) (evaluate standard (withGap 1) slackened) =
        .error (.overflow .hugeInteger) ∧
      Escapes (withGap 1) slackened (.overflow .hugeInteger) ∧
      evaluate standard (withGap 0) slackened = .ok 3 := by
  have halted : evaluate standard (withGap 1) slackened = .error .hugeInteger := by decide +kernel
  have fault : Outcome.of (Fault.ofHalt slackened) (evaluate standard (withGap 1) slackened) =
      .error (.overflow .hugeInteger) := by
    rw [halted]
    rfl
  refine ⟨withGap_numeric 1, fault, ?_, by decide +kernel⟩
  obtain ⟨cause, own⟩ | escapes := (evaluate_faults (withGap_numeric 1) slackened _).1 fault
  · cases own
  · exact escapes

/-- A formula may end neither with a number nor with an error of its own. -/
theorem faults_may_escape :
    ¬∀ (bindings : Bindings) (text : String), bindings.Numeric →
      (∃ x, evaluate standard bindings text = .ok x) ∨
        ∃ cause, Outcome.of (Fault.ofHalt text) (evaluate standard bindings text) =
          .error (.error (.expression none none (some text) cause)) := by
  intro documented
  have halted : evaluate standard (withGap 1) slackened = .error .hugeInteger := by decide +kernel
  have answer := documented (withGap 1) slackened (withGap_numeric 1)
  rw [halted] at answer
  obtain ⟨x, computed⟩ | ⟨cause, failed⟩ := answer
  · cases computed
  · cases failed

end Formula

end Inspection
