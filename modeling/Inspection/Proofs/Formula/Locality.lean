import Inspection.Proofs.Formula.Halting

/-!
# What formulas read

A formula reads its bindings at the names that it mentions and nowhere else, so bindings that agree
on these are evaluated alike, whatever functions there are and whichever branches are taken
(`Expr.eval_congr`). And an unknown name is one of these that is not bound (`evaluate_local`).
-/

namespace Inspection

namespace Formula

/-- The bindings have the same at every name among the leaves. -/
def Bindings.AgreeOn (leaves : List Leaf) (b b' : Bindings) : Prop :=
  ∀ n, .name n ∈ leaves → b n = b' n

section

variable {functions : Functions} {b b' : Bindings} {leaves more : List Leaf}

/-- Bindings that agree on a whole agree on its left part. -/
lemma Bindings.AgreeOn.left (agree : AgreeOn (leaves ++ more) b b') : AgreeOn leaves b b' :=
  fun n mem => agree n (List.mem_append_left _ mem)

/-- Bindings that agree on a whole agree on its right part. -/
lemma Bindings.AgreeOn.right (agree : AgreeOn (leaves ++ more) b b') : AgreeOn more b b' :=
  fun n mem => agree n (List.mem_append_right _ mem)

/-- Arguments that are evaluated alike have the same values. -/
lemma evalAll_congr {es : List Expr}
    (each : ∀ e ∈ es, e.eval functions b = e.eval functions b') :
    evalAll functions b es = evalAll functions b' es := by
  induction es with
  | nil => rfl
  | cons e rest ih =>
    rw [evalAll, evalAll, each e List.mem_cons_self,
      ih fun e mem => each e (List.mem_cons_of_mem _ mem)]

/-- Conditions that are evaluated alike are decided alike, and by the same of them. -/
lemma evalConnected_congr {op : Connective} {es : List Expr}
    (each : ∀ e ∈ es, e.eval functions b = e.eval functions b') :
    evalConnected functions b op es = evalConnected functions b' op es := by
  induction es with
  | nil => rfl
  | cons e rest ih =>
    rw [evalConnected, evalConnected, each e List.mem_cons_self,
      ih fun e mem => each e (List.mem_cons_of_mem _ mem)]

/-- Operands that are evaluated alike are compared alike, and as far. -/
lemma evalRelated_congr {x : Float} {es : List (Relation × Expr)}
    (each : ∀ e ∈ es, e.2.eval functions b = e.2.eval functions b') :
    evalRelated functions b x es = evalRelated functions b' x es := by
  induction es generalizing x with
  | nil => rfl
  | cons e rest ih =>
    have tail : ∀ y, evalRelated functions b y rest = evalRelated functions b' y rest :=
      fun y => ih fun e mem => each e (List.mem_cons_of_mem _ mem)
    rw [evalRelated, evalRelated, each e List.mem_cons_self]
    simp only [tail]

/-- A call is evaluated alike if its arguments are, also where it chooses one of them. -/
lemma eval_call_congr {f : String} {args : List Expr}
    (each : ∀ e ∈ args, e.eval functions b = e.eval functions b') :
    (Expr.call f args).eval functions b = (Expr.call f args).eval functions b' := by
  rw [Expr.eval.eq_def, Expr.eval.eq_def functions b']
  dsimp only
  -- a conditional evaluates one branch only, so its arguments are not taken together
  by_cases choice : f = choiceName
  · rw [if_pos choice, if_pos choice]
    split
    case h_1 c t e => rw [each c (by simp), each t (by simp), each e (by simp)]
    case h_2 => rfl
  · rw [if_neg choice, if_neg choice, evalAll_congr each]

mutual

/-- A formula is evaluated alike with bindings that agree on its names. -/
lemma Expr.eval_congr : (e : Expr) → Bindings.AgreeOn e.leaves b b' →
    e.eval functions b = e.eval functions b'
  | .literal l, agree => rfl
  | .name n, agree => by
    rw [Expr.eval, Expr.eval, lookup, lookup, agree n List.mem_cons_self]
  | .unary op e, agree => by rw [Expr.eval, Expr.eval, e.eval_congr agree]
  | .arith op x y, agree => by
    rw [Expr.leaves] at agree
    rw [Expr.eval, Expr.eval, x.eval_congr agree.left, y.eval_congr agree.right]
  | .compare first rest, agree => by
    rw [Expr.leaves] at agree
    have tail : ∀ x, evalRelated functions b x rest = evalRelated functions b' x rest :=
      fun x => evalRelated_congr (eval_congr_related rest agree.right)
    rw [Expr.eval, Expr.eval, first.eval_congr agree.left]
    simp only [tail]
  | .connect op operands, agree => by
    rw [Expr.eval, Expr.eval, evalConnected_congr (eval_congr_operand operands agree)]
  | .call f args, agree => eval_call_congr (eval_congr_operand args agree)

/-- Operands are evaluated alike with bindings that agree on the names of all. -/
lemma eval_congr_operand : (es : List Expr) → Bindings.AgreeOn (leavesOfAll es) b b' →
    ∀ e ∈ es, e.eval functions b = e.eval functions b'
  | [], agree, e, mem => nomatch mem
  | e' :: rest, agree, e, mem => by
    rw [leavesOfAll] at agree
    rcases List.mem_cons.1 mem with same | mem
    · rw [same]
      exact e'.eval_congr agree.left
    · exact eval_congr_operand rest agree.right e mem

/-- Compared operands are evaluated alike with bindings that agree on the names of all. -/
lemma eval_congr_related : (es : List (Relation × Expr)) →
    Bindings.AgreeOn (leavesOfRelated es) b b' →
    ∀ e ∈ es, e.2.eval functions b = e.2.eval functions b'
  | [], agree, e, mem => nomatch mem
  | (r, e') :: rest, agree, e, mem => by
    rw [leavesOfRelated] at agree
    rcases List.mem_cons.1 mem with same | mem
    · rw [same]
      exact e'.eval_congr agree.left
    · exact eval_congr_related rest agree.right e mem

end

end

/-- A formula's text with functions of any kind is evaluated alike with bindings that agree on the
names that it mentions, to the same number or the same halt; and a name that is found unknown is one
that it mentions and that is not bound. -/
theorem evaluate_local (functions : Functions) {text : String} {r : References}
    (read : references text = .ok r) :
    (∀ b b' : Bindings, (∀ n, r.Mentions n → b n = b' n) →
      evaluate functions b text = evaluate functions b' text) ∧
    ∀ (b : Bindings) (n : String),
      evaluate functions b text = .error (.failure (.unknownName n)) →
        r.Mentions n ∧ b n = none := by
  obtain ⟨e, parsed, rfl⟩ := references_eq_ok.1 read
  constructor
  · intro b b' agree
    rw [evaluate, evaluate, parsed]
    dsimp only
    rw [Expr.number, Expr.number, e.eval_congr fun n mem => agree n (name_mem_leaves.1 mem)]
  · intro b n unknown
    rw [evaluate, parsed] at unknown
    obtain ⟨m, mem, none, same⟩ := (Expr.number_eq_error unknown).unbound rfl
    cases same
    exact ⟨name_mem_leaves.1 mem, none⟩

/-- A formula that reads the slack only where there is no gap, and the samples of the gap
elsewhere. -/
def byGap : String := "if(gap > 0, AVG(gap_samples) / gap, slack)"

/-- There is no gap, and what else is given. -/
def noGap (given : Bindings) : Bindings :=
  given.bind "gap" (.float 0)

/-- What is bound to a name that the formula does not mention makes no difference to it, and a slack
that it finds unknown is one that it mentions. -/
theorem evaluate_local_byGap :
    references byGap = .ok ⟨["gap", "slack"], ["gap_samples"], ["if", "AVG"]⟩ ∧
      evaluate standard (noGap fun n => if n = "slack" then some (.integer 3) else none) byGap =
        evaluate standard (noGap fun n =>
          if n = "slack" then some (.integer 3)
          else if n = "offset" then some .notNumeric else none) byGap ∧
      evaluate standard (noGap fun _ => none) byGap =
        .error (.failure (.unknownName "slack")) ∧
      References.Mentions ⟨["gap", "slack"], ["gap_samples"], ["if", "AVG"]⟩ "slack" ∧
      noGap (fun _ => none) "slack" = none := by
  have read : references byGap = .ok ⟨["gap", "slack"], ["gap_samples"], ["if", "AVG"]⟩ := by
    decide +kernel
  have unknown : evaluate standard (noGap fun _ => none) byGap =
      .error (.failure (.unknownName "slack")) := by decide +kernel
  obtain ⟨alike, unbound⟩ := evaluate_local standard read
  refine ⟨read, alike _ _ ?_, unknown, unbound _ _ unknown⟩
  intro n mention
  simp only [References.Mentions, List.mem_cons, List.not_mem_nil, or_false] at mention
  rcases mention with (rfl | rfl) | rfl <;> rfl

end Formula

end Inspection
