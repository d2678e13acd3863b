import Inspection.Proofs.Formula.Escaping

/-!
# Connectives as choices

A negation, a conjunction and a disjunction may be written as conditionals that choose between 1 and
0. The values differ, since a connective has a truth where a conditional has a number, but nothing
in a formula tells a truth from its number (`Value.settled`): operators, comparisons, conditions and
functions take the one for the other. So formulas that come to the same but for that are
interchangeable as parts of any formula (`Interchangeable.fill`), and the conditionals are so with
the connectives, down to the leaves that their evaluation comes to (`choices_for_connectives`).
-/

namespace Inspection

namespace Formula

/-! ## Parts of formulas -/

/-- A formula but for one of its operands, the place of which it keeps. -/
inductive Frame
  | unary (op : Unary)
  | arithLeft (op : Arith) (right : Expr)
  | arithRight (op : Arith) (left : Expr)
  | compareFirst (rest : List (Relation × Expr))
  | compareFurther (first : Expr) (before : List (Relation × Expr)) (r : Relation)
    (after : List (Relation × Expr))
  | connect (op : Connective) (before after : List Expr)
  | call (function : String) (before after : List Expr)

/-- The formula with an operand at the place that was kept. -/
def Frame.fill (frame : Frame) (e : Expr) : Expr :=
  match frame with
  | unary op => .unary op e
  | arithLeft op right => .arith op e right
  | arithRight op left => .arith op left e
  | compareFirst rest => .compare e rest
  | compareFurther first before r after => .compare first (before ++ (r, e) :: after)
  | connect op before after => .connect op (before ++ e :: after)
  | call f before after => .call f (before ++ e :: after)

/-- All that surrounds a place in a formula, from the inside out. -/
abbrev Surroundings := List Frame

/-- The whole formula with a part at the place. -/
def Surroundings.fill (around : Surroundings) (e : Expr) : Expr :=
  around.foldl (fun e frame => frame.fill e) e

/-! ## Truths as numbers -/

/-- The value with a truth taken for its number. -/
def Value.settled : Value → Value
  | flag b => number (if b then 1.0 else 0.0)
  | v => v

@[simp] lemma Value.asNumber_settled (v : Value) (role : Role) :
    v.settled.asNumber role = v.asNumber role := by
  cases v <;> rfl

@[simp] lemma Value.holds_settled (v : Value) : v.settled.holds = v.holds := by
  cases v with
  | flag b => cases b <;> decide +kernel
  | number x => rfl
  | array xs => rfl

@[simp] lemma Value.numbers_settled (v : Value) : v.settled.numbers = v.numbers := by
  cases v <;> rfl

@[simp] lemma scalarArgument_settled (f : String) (v : Value) :
    scalarArgument f v.settled = scalarArgument f v := by
  cases v <;> rfl

@[simp] lemma Unary.apply_settled (op : Unary) (v : Value) : op.apply v.settled = op.apply v := by
  cases op <;> simp [apply]

/-- A function that takes a truth for its number. -/
def TakesSettled (function : Function) : Prop :=
  ∀ args, function (args.map Value.settled) = function args

lemma average_takes : TakesSettled average := by
  intro args
  cases args with
  | nil => rfl
  | cons v rest =>
    cases rest with
    | nil => cases v <;> rfl
    | cons w rest => simp [average]

lemma squareRoot_takes : TakesSettled squareRoot := by
  intro args
  match args with
  | [] => rfl
  | [v] => simp [squareRoot]
  | _ :: _ :: _ => simp [squareRoot]

lemma powerFunction_takes : TakesSettled powerFunction := by
  intro args
  match args with
  | [] => rfl
  | [v] => rfl
  | [v, w] => simp [powerFunction]
  | _ :: _ :: _ :: _ => simp [powerFunction]

lemma absolute_takes : TakesSettled absolute := by
  intro args
  match args with
  | [] => rfl
  | [v] => simp [absolute]
  | _ :: _ :: _ => simp [absolute]

lemma extreme_takes {precedes : Float → Float → Bool} {name : String} :
    TakesSettled (extreme precedes name) := by
  intro args
  have numbers : (args.map Value.settled).flatMap Value.numbers = args.flatMap Value.numbers := by
    simp [List.flatMap_map]
  rw [extreme, extreme, numbers]

/-- The functions that every formula may call take truths for their numbers. -/
lemma standard_takes {f : String} {function : Function} (defined : standard f = some function) :
    TakesSettled function := by
  refine standard_forall ?_ defined
  simp only [standardFunctions, List.forall_mem_cons]
  exact ⟨average_takes, squareRoot_takes, powerFunction_takes, absolute_takes, extreme_takes,
    extreme_takes, fun _ none => absurd none List.not_mem_nil⟩

/-! ## Interchangeable formulas -/

/-- The second evaluation comes to the leaves of the first, in the same order, and besides to at
most one written 1 or 0. -/
def VisitsAlike (leaves more : List Leaf) : Prop :=
  ∃ before extra after, leaves = before ++ after ∧ more = before ++ extra ++ after ∧
    (extra = [] ∨ ∃ n ≤ 1, extra = [.literal (.integer n)])

namespace VisitsAlike

variable {leaves more : List Leaf} {α : Type} {x x' : Except Halt α}

lemma refl (leaves : List Leaf) : VisitsAlike leaves leaves :=
  ⟨leaves, [], [], by simp, by simp, .inl rfl⟩

/-- What comes after the difference is the same. -/
lemma first (alike : VisitsAlike leaves more) (same : x = x') (next : α → List Leaf) :
    VisitsAlike (leaves ++ after x next) (more ++ after x' next) := by
  obtain ⟨before, extra, later, rfl, rfl, written⟩ := alike
  rw [same]
  exact ⟨before, extra, later ++ after x' next, by simp, by simp, written⟩

/-- What comes before the difference is the same. -/
lemma later (leaves : List Leaf) (x : Except Halt α) {next next' : α → List Leaf}
    (alike : ∀ a, x = .ok a → VisitsAlike (next a) (next' a)) :
    VisitsAlike (leaves ++ after x next) (leaves ++ after x next') := by
  cases x with
  | error halt => exact refl _
  | ok a =>
    obtain ⟨before, extra, rest, own, own', written⟩ := alike a rfl
    refine ⟨leaves ++ before, extra, rest, ?_, ?_, written⟩
    · rw [after, own, List.append_assoc]
    · rw [after, own', List.append_assoc, List.append_assoc, List.append_assoc]

end VisitsAlike

section

variable (functions : Functions) (bindings : Bindings)

/-- What a formula comes to where a truth is taken for its number. -/
def Expr.comesTo (e : Expr) : Except Halt Value :=
  (e.eval functions bindings).map Value.settled

/-- What a row of arguments comes to where truths are taken for their numbers. -/
def allComeTo (es : List Expr) : Except Halt (List Value) :=
  (evalAll functions bindings es).map (List.map Value.settled)

/-- The second formula comes to the same as the first, a truth taken for its number, and by the same
leaves. -/
structure Interchangeable (e e' : Expr) : Prop where
  comesTo : e.comesTo functions bindings = e'.comesTo functions bindings
  visits : VisitsAlike (e.visited functions bindings) (e'.visited functions bindings)

end

section

variable {functions : Functions} {bindings : Bindings} {e e' : Expr}

/-- What follows a formula does not tell a truth from its number. -/
lemma bind_comesTo {β : Type} {k : Value → Except Halt β} (takes : ∀ v, k v.settled = k v) :
    (e.eval functions bindings >>= k) = e.comesTo functions bindings >>= k := by
  rw [Expr.comesTo]
  cases e.eval functions bindings with
  | error halt => rfl
  | ok v => exact (takes v).symm

/-- Whether a formula has a value does not depend on whether that is a truth or a number. -/
lemma after_comesTo (next : List Leaf) :
    after (e.eval functions bindings) (fun _ => next) =
      after (e.comesTo functions bindings) fun _ => next := by
  rw [Expr.comesTo]
  cases e.eval functions bindings <;> rfl

/-- The arguments of a row come to their values one after the other. -/
lemma allComeTo_cons (rest : List Expr) :
    allComeTo functions bindings (e :: rest) = (do
      let v ← e.comesTo functions bindings
      return v :: (← allComeTo functions bindings rest)) := by
  rw [allComeTo, allComeTo, Expr.comesTo, evalAll]
  cases e.eval functions bindings with
  | error halt => rfl
  | ok v => cases evalAll functions bindings rest <;> rfl

end

namespace Interchangeable

variable {functions : Functions} {bindings : Bindings} {e e' : Expr}
  (same : Interchangeable functions bindings e e')
include same

lemma asNumber (role : Role) :
    (e.eval functions bindings >>= fun v => v.asNumber role) =
      e'.eval functions bindings >>= fun v => v.asNumber role := by
  have takes (v : Value) : v.settled.asNumber role = v.asNumber role := v.asNumber_settled role
  rw [bind_comesTo takes, bind_comesTo takes, same.comesTo]

lemma holds : (e.eval functions bindings >>= Value.holds) =
    e'.eval functions bindings >>= Value.holds := by
  rw [bind_comesTo Value.holds_settled, bind_comesTo Value.holds_settled, same.comesTo]

/-! ### In rows of operands -/

/-- Arguments of a row come to the same. -/
lemma allComeTo (before rest : List Expr) :
    Formula.allComeTo functions bindings (before ++ e :: rest) =
      Formula.allComeTo functions bindings (before ++ e' :: rest) := by
  induction before with
  | nil =>
    rw [List.nil_append, List.nil_append, allComeTo_cons, allComeTo_cons, same.comesTo]
  | cons first before ih =>
    rw [List.cons_append, List.cons_append, allComeTo_cons, allComeTo_cons, ih]

/-- Arguments of a row are visited alike. -/
lemma visitedAll (before rest : List Expr) :
    VisitsAlike (Formula.visitedAll functions bindings (before ++ e :: rest))
      (Formula.visitedAll functions bindings (before ++ e' :: rest)) := by
  induction before with
  | nil =>
    rw [List.nil_append, List.nil_append, Formula.visitedAll, Formula.visitedAll, after_comesTo,
      after_comesTo]
    exact same.visits.first same.comesTo _
  | cons first before ih =>
    rw [List.cons_append, List.cons_append, Formula.visitedAll, Formula.visitedAll]
    exact .later _ _ fun _ _ => ih

/-- Connected conditions are decided alike. -/
lemma evalConnected (op : Connective) (before rest : List Expr) :
    Formula.evalConnected functions bindings op (before ++ e :: rest) =
      Formula.evalConnected functions bindings op (before ++ e' :: rest) := by
  induction before with
  | nil =>
    rw [List.nil_append, List.nil_append, Formula.evalConnected, Formula.evalConnected,
      ← bind_assoc, ← bind_assoc, same.holds]
  | cons first before ih =>
    rw [List.cons_append, List.cons_append, Formula.evalConnected, Formula.evalConnected, ih]

/-- Connected conditions are visited alike. -/
lemma visitedConnected (op : Connective) (before rest : List Expr) :
    VisitsAlike (Formula.visitedConnected functions bindings op (before ++ e :: rest))
      (Formula.visitedConnected functions bindings op (before ++ e' :: rest)) := by
  induction before with
  | nil =>
    rw [List.nil_append, List.nil_append, Formula.visitedConnected, Formula.visitedConnected]
    exact same.visits.first same.holds _
  | cons first before ih =>
    rw [List.cons_append, List.cons_append, Formula.visitedConnected, Formula.visitedConnected]
    refine .later _ _ fun b _ => ?_
    split
    case isTrue => exact .refl []
    case isFalse => exact ih

/-- Chains of comparisons hold alike. -/
lemma evalRelated (x : Float) (before : List (Relation × Expr)) (r : Relation)
    (rest : List (Relation × Expr)) :
    Formula.evalRelated functions bindings x (before ++ (r, e) :: rest) =
      Formula.evalRelated functions bindings x (before ++ (r, e') :: rest) := by
  induction before generalizing x with
  | nil =>
    rw [List.nil_append, List.nil_append, Formula.evalRelated, Formula.evalRelated, ← bind_assoc,
      ← bind_assoc, same.asNumber]
  | cons first before ih =>
    rw [List.cons_append, List.cons_append, Formula.evalRelated, Formula.evalRelated]
    simp only [ih]

/-- Compared operands are visited alike. -/
lemma visitedRelated (x : Float) (before : List (Relation × Expr)) (r : Relation)
    (rest : List (Relation × Expr)) :
    VisitsAlike (Formula.visitedRelated functions bindings x (before ++ (r, e) :: rest))
      (Formula.visitedRelated functions bindings x (before ++ (r, e') :: rest)) := by
  induction before generalizing x with
  | nil =>
    rw [List.nil_append, List.nil_append, Formula.visitedRelated, Formula.visitedRelated]
    exact same.visits.first (same.asNumber .comparisonOperand) _
  | cons first before ih =>
    rw [List.cons_append, List.cons_append, Formula.visitedRelated, Formula.visitedRelated]
    refine .later _ _ fun y _ => ?_
    split
    case isTrue => exact ih y
    case isFalse => exact .refl []

end Interchangeable

/-! ### In any formula -/

section

variable {functions : Functions} {bindings : Bindings}

/-- What follows a row of arguments does not tell truths from their numbers. -/
lemma bind_allComeTo {β : Type} {k : List Value → Except Halt β} {es : List Expr}
    (takes : ∀ vs, k (vs.map Value.settled) = k vs) :
    (evalAll functions bindings es >>= k) = allComeTo functions bindings es >>= k := by
  rw [allComeTo]
  cases evalAll functions bindings es with
  | error halt => rfl
  | ok vs => exact (takes vs).symm

/-- A choice takes three arguments. -/
lemma choice_of_length {args : List Expr} (other : args.length ≠ 3) :
    (Expr.call choiceName args).eval functions bindings = fail (.choiceArity args.length) ∧
      (Expr.call choiceName args).visited functions bindings = [] := by
  rw [Expr.eval.eq_def, Expr.visited.eq_def]
  dsimp only
  rw [if_pos rfl, if_pos rfl]
  match args, other with
  | [], _ => exact ⟨rfl, rfl⟩
  | [_], _ => exact ⟨rfl, rfl⟩
  | [_, _], _ => exact ⟨rfl, rfl⟩
  | [_, _, _], other => exact absurd rfl other
  | _ :: _ :: _ :: _ :: _, _ => exact ⟨rfl, rfl⟩

/-- A choice is that of the branch. -/
lemma eval_choice (c t e : Expr) :
    (Expr.call choiceName [c, t, e]).eval functions bindings =
      (c.eval functions bindings >>= Value.holds) >>= fun b =>
        if b then t.eval functions bindings else e.eval functions bindings := by
  rw [Expr.eval.eq_def, bind_assoc]
  rfl

lemma visited_choice (c t e : Expr) :
    (Expr.call choiceName [c, t, e]).visited functions bindings =
      c.visited functions bindings ++ after (c.eval functions bindings >>= Value.holds)
        fun b => if b then t.visited functions bindings else e.visited functions bindings := by
  rw [Expr.visited.eq_def]
  rfl

/-- A place in a row is one of three, unless the row has another length. -/
lemma place_cases (before rest : List Expr) :
    (before = [] ∧ ∃ t e, rest = [t, e]) ∨ (∃ c e, before = [c] ∧ rest = [e]) ∨
      (∃ c t, before = [c, t] ∧ rest = []) ∨ ∀ e, (before ++ e :: rest).length ≠ 3 := by
  match before, rest with
  | [], [t, e] => exact .inl ⟨rfl, t, e, rfl⟩
  | [c], [e] => exact .inr (.inl ⟨c, e, rfl, rfl⟩)
  | [c, t], [] => exact .inr (.inr (.inl ⟨c, t, rfl, rfl⟩))
  | [], [] | [], [_] | [], _ :: _ :: _ :: _ | [_], [] | [_], _ :: _ :: _ | [_, _], _ :: _
  | _ :: _ :: _ :: _, _ =>
    exact .inr (.inr (.inr fun e => by simp))

end

namespace Interchangeable

variable {functions : Functions} {bindings : Bindings} {e e' : Expr}

/-- Formulas with equal values that come to the same leaves are interchangeable. -/
lemma of_eq (value : e.eval functions bindings = e'.eval functions bindings)
    (visited : e.visited functions bindings = e'.visited functions bindings) :
    Interchangeable functions bindings e e' := by
  refine ⟨by rw [Expr.comesTo, value, Expr.comesTo], ?_⟩
  rw [visited]
  exact .refl _

/-- A choice of interchangeable parts. -/
lemma choice (same : Interchangeable functions bindings e e') (before rest : List Expr) :
    Interchangeable functions bindings (.call choiceName (before ++ e :: rest))
      (.call choiceName (before ++ e' :: rest)) := by
  rcases place_cases before rest with ⟨rfl, t, d, rfl⟩ | ⟨c, d, rfl, rfl⟩ | ⟨c, t, rfl, rfl⟩ | other
  -- the condition
  · constructor
    · rw [Expr.comesTo, Expr.comesTo, List.nil_append, List.nil_append, eval_choice, eval_choice,
        same.holds]
    · rw [List.nil_append, List.nil_append, visited_choice, visited_choice]
      exact same.visits.first same.holds _
  -- the first branch
  · constructor
    · rw [Expr.comesTo, Expr.comesTo, List.singleton_append, List.singleton_append, eval_choice,
        eval_choice]
      cases c.eval functions bindings >>= Value.holds with
      | error halt => rfl
      | ok b =>
        cases b with
        | true => exact same.comesTo
        | false => rfl
    · rw [List.singleton_append, List.singleton_append, visited_choice, visited_choice]
      refine .later _ _ fun b _ => ?_
      cases b with
      | true => exact same.visits
      | false => exact .refl _
  -- the second branch
  · constructor
    · simp only [List.cons_append, List.nil_append, Expr.comesTo, eval_choice]
      cases c.eval functions bindings >>= Value.holds with
      | error halt => rfl
      | ok b =>
        cases b with
        | true => rfl
        | false => exact same.comesTo
    · simp only [List.cons_append, List.nil_append, visited_choice]
      refine .later _ _ fun b _ => ?_
      cases b with
      | true => exact .refl _
      | false => exact same.visits
  -- no choice at all
  · obtain ⟨value, visited⟩ := @choice_of_length functions bindings _ (other e)
    obtain ⟨value', visited'⟩ := @choice_of_length functions bindings _ (other e')
    have length : (before ++ e :: rest).length = (before ++ e' :: rest).length := by simp
    exact of_eq (by rw [value, value', length]) (by rw [visited, visited'])

/-- A call of a function with interchangeable arguments. -/
lemma call (same : Interchangeable functions bindings e e')
    (takes : ∀ f function, functions f = some function → TakesSettled function) {f : String}
    (other : f ≠ choiceName) (before rest : List Expr) :
    Interchangeable functions bindings (.call f (before ++ e :: rest))
      (.call f (before ++ e' :: rest)) := by
  have visited (args : List Expr) : (Expr.call f args).visited functions bindings =
      if (functions f).isSome then Formula.visitedAll functions bindings args else [] := by
    rw [Expr.visited.eq_def]
    exact if_neg other
  constructor
  · rw [Expr.comesTo, Expr.comesTo]
    cases defined : functions f with
    | none =>
      have eval (args : List Expr) : (Expr.call f args).eval functions bindings =
          fail (.unknownFunction f) := by
        rw [Expr.eval.eq_def]
        dsimp only
        rw [if_neg other, defined]
      rw [eval, eval]
    | some function =>
      have eval (args : List Expr) : (Expr.call f args).eval functions bindings =
          Formula.evalAll functions bindings args >>= fun vs => answered f (function vs) := by
        rw [Expr.eval.eq_def]
        dsimp only
        rw [if_neg other, defined]
      have own := takes f function defined
      have alike (vs : List Value) :
          answered f (function (vs.map Value.settled)) = answered f (function vs) := by rw [own]
      rw [eval, eval, bind_allComeTo alike, bind_allComeTo alike, same.allComeTo]
  · rw [visited, visited]
    split
    case isTrue => exact same.visitedAll before rest
    case isFalse => exact .refl []

/-- Formulas with interchangeable operands at one place are interchangeable. -/
lemma frame (same : Interchangeable functions bindings e e')
    (takes : ∀ f function, functions f = some function → TakesSettled function) (frame : Frame) :
    Interchangeable functions bindings (frame.fill e) (frame.fill e') := by
  cases frame with
  | unary op =>
    constructor
    · rw [Frame.fill, Frame.fill, Expr.comesTo, Expr.comesTo, Expr.eval, Expr.eval,
        bind_comesTo op.apply_settled, bind_comesTo op.apply_settled, same.comesTo]
    · rw [Frame.fill, Frame.fill, Expr.visited, Expr.visited]
      exact same.visits
  | arithLeft op right =>
    constructor
    · rw [Frame.fill, Frame.fill, Expr.comesTo, Expr.comesTo, Expr.eval, Expr.eval, ← bind_assoc,
        ← bind_assoc, same.asNumber]
    · rw [Frame.fill, Frame.fill, Expr.visited, Expr.visited]
      exact same.visits.first (same.asNumber .leftOperand) _
  | arithRight op left =>
    constructor
    · rw [Frame.fill, Frame.fill, Expr.comesTo, Expr.comesTo, Expr.eval, Expr.eval]
      simp only [← bind_assoc (e.eval functions bindings),
        ← bind_assoc (e'.eval functions bindings), same.asNumber]
    · rw [Frame.fill, Frame.fill, Expr.visited, Expr.visited]
      exact .later _ _ fun _ _ => same.visits
  | compareFirst rest =>
    constructor
    · rw [Frame.fill, Frame.fill, Expr.comesTo, Expr.comesTo, Expr.eval, Expr.eval, ← bind_assoc,
        ← bind_assoc, same.asNumber]
    · rw [Frame.fill, Frame.fill, Expr.visited, Expr.visited]
      exact same.visits.first (same.asNumber .comparisonOperand) _
  | compareFurther first before r rest =>
    constructor
    · rw [Frame.fill, Frame.fill, Expr.comesTo, Expr.comesTo, Expr.eval, Expr.eval]
      simp only [same.evalRelated]
    · rw [Frame.fill, Frame.fill, Expr.visited, Expr.visited]
      exact .later _ _ fun x _ => same.visitedRelated x before r rest
  | connect op before rest =>
    constructor
    · rw [Frame.fill, Frame.fill, Expr.comesTo, Expr.comesTo, Expr.eval, Expr.eval,
        same.evalConnected]
    · rw [Frame.fill, Frame.fill, Expr.visited, Expr.visited]
      exact same.visitedConnected op before rest
  | call f before rest =>
    by_cases choice : f = choiceName
    · rw [choice]
      exact same.choice before rest
    · exact same.call takes choice before rest

/-- Interchangeable parts make interchangeable formulas, whatever surrounds them. -/
lemma fill (same : Interchangeable functions bindings e e')
    (takes : ∀ f function, functions f = some function → TakesSettled function)
    (around : Surroundings) :
    Interchangeable functions bindings (around.fill e) (around.fill e') := by
  induction around generalizing e e' with
  | nil => exact same
  | cons frame around ih => exact ih (same.frame takes frame)

end Interchangeable

/-! ## Choices for connectives -/

/-- The formula that has the second value where the condition holds, and else the third. -/
def Expr.choice (condition holding failing : Expr) : Expr :=
  .call choiceName [condition, holding, failing]

/-- The written number of a truth. -/
def Expr.truth : Bool → Expr
  | true => .literal (.integer 1)
  | false => .literal (.integer 0)

/-- The choices that come to what a connective between two conditions does. -/
def Connective.asChoice (op : Connective) (f g : Expr) : Expr :=
  match op with
  | .and => .choice f (.choice g (.truth true) (.truth false)) (.truth false)
  | .or => .choice f (.truth true) (.choice g (.truth true) (.truth false))

section

variable {functions : Functions} {bindings : Bindings}

/-- The written number of a truth is that which the truth is taken for. -/
lemma eval_truth (b : Bool) :
    (Expr.truth b).eval functions bindings = .ok (Value.flag b).settled := by
  have one : (Literal.integer 1).value = .ok (.number 1.0) := by decide +kernel
  have zero : (Literal.integer 0).value = .ok (.number 0.0) := by decide +kernel
  cases b with
  | true =>
    rw [Expr.truth, Expr.eval, one]
    rfl
  | false =>
    rw [Expr.truth, Expr.eval, zero]
    rfl

/-- What comes to a written truth at its end comes to one leaf more. -/
lemma VisitsAlike.truth (leaves : List Leaf) (b : Bool) :
    VisitsAlike leaves (leaves ++ (Expr.truth b).visited functions bindings) := by
  refine ⟨leaves, (Expr.truth b).visited functions bindings, [], by simp, by simp, .inr ?_⟩
  cases b with
  | true => exact ⟨1, Nat.le_refl 1, rfl⟩
  | false => exact ⟨0, Nat.zero_le 1, rfl⟩

/-- A connective has the truth of the first condition where that decides, and else of the second. -/
lemma eval_connect (op : Connective) (f g : Expr) :
    (Expr.connect op [f, g]).eval functions bindings =
      (f.eval functions bindings >>= Value.holds) >>= fun b =>
        if op.decidedBy b then .ok (.flag b)
        else (g.eval functions bindings >>= Value.holds) >>= fun b => .ok (.flag b) := by
  rw [Expr.eval, evalConnected, ← bind_assoc]
  congr 1
  funext b
  rw [evalConnected, ← bind_assoc]
  -- after the last condition nothing is left, so the truth of that one is the truth of all
  have last : (fun b => if op.decidedBy b then pure (Value.flag b)
      else evalConnected functions bindings op []) = fun b => Except.ok (.flag b) := by
    funext b
    cases op <;> cases b <;> rfl
  rw [last]
  rfl

lemma visited_connect (op : Connective) (f g : Expr) :
    (Expr.connect op [f, g]).visited functions bindings =
      f.visited functions bindings ++ after (f.eval functions bindings >>= Value.holds) fun b =>
        if op.decidedBy b then [] else g.visited functions bindings := by
  have last : (after (g.eval functions bindings >>= Value.holds) fun b =>
      if op.decidedBy b then [] else visitedConnected functions bindings op []) = [] := by
    cases g.eval functions bindings >>= Value.holds with
    | error halt => rfl
    | ok b => simp [after, visitedConnected]
  rw [Expr.visited, visitedConnected, visitedConnected, last, List.append_nil]

/-- The choices for a connective, too, go on with the second condition where the first does not
decide. -/
lemma eval_asChoice (op : Connective) (f g : Expr) :
    (op.asChoice f g).eval functions bindings =
      (f.eval functions bindings >>= Value.holds) >>= fun b =>
        if op.decidedBy b then (Expr.truth b).eval functions bindings
        else (g.eval functions bindings >>= Value.holds) >>= fun b =>
          (Expr.truth b).eval functions bindings := by
  have second : (Expr.choice g (.truth true) (.truth false)).eval functions bindings =
      (g.eval functions bindings >>= Value.holds) >>= fun b =>
        (Expr.truth b).eval functions bindings := by
    rw [Expr.choice, eval_choice]
    congr 1
    funext b
    cases b <;> rfl
  cases op with
  | and =>
    rw [Connective.asChoice, Expr.choice, eval_choice, second]
    congr 1
    funext b
    cases b <;> rfl
  | or =>
    rw [Connective.asChoice, Expr.choice, eval_choice, second]
    congr 1
    funext b
    cases b <;> rfl

lemma visited_asChoice (op : Connective) (f g : Expr) :
    (op.asChoice f g).visited functions bindings =
      f.visited functions bindings ++ after (f.eval functions bindings >>= Value.holds) fun b =>
        if op.decidedBy b then (Expr.truth b).visited functions bindings
        else g.visited functions bindings ++ after (g.eval functions bindings >>= Value.holds)
          fun b => (Expr.truth b).visited functions bindings := by
  have second : (Expr.choice g (.truth true) (.truth false)).visited functions bindings =
      g.visited functions bindings ++ after (g.eval functions bindings >>= Value.holds)
        fun b => (Expr.truth b).visited functions bindings := by
    rw [Expr.choice, visited_choice]
    congr 2
    funext b
    cases b <;> rfl
  cases op with
  | and =>
    rw [Connective.asChoice, Expr.choice, visited_choice, second]
    congr 2
    funext b
    cases b <;> rfl
  | or =>
    rw [Connective.asChoice, Expr.choice, visited_choice, second]
    congr 2
    funext b
    cases b <;> rfl

end

namespace Interchangeable

variable {functions : Functions} {bindings : Bindings}

/-- A negation is the choice of the other truth. -/
lemma negation (f : Expr) : Interchangeable functions bindings (.unary .not f)
    (.choice f (.truth false) (.truth true)) := by
  have eval : (Expr.unary .not f).eval functions bindings =
      (f.eval functions bindings >>= Value.holds) >>= fun b => .ok (.flag !b) := by
    rw [Expr.eval, bind_assoc]
    rfl
  constructor
  · rw [Expr.comesTo, Expr.comesTo, eval, Expr.choice, eval_choice, eval_truth, eval_truth]
    cases f.eval functions bindings >>= Value.holds with
    | error halt => rfl
    | ok b => cases b <;> rfl
  · rw [Expr.visited, Expr.choice, visited_choice]
    cases f.eval functions bindings >>= Value.holds with
    | error halt =>
      rw [after, List.append_nil]
      exact .refl _
    | ok b =>
      cases b with
      | true => exact @VisitsAlike.truth functions bindings _ false
      | false => exact @VisitsAlike.truth functions bindings _ true

/-- A connective between two conditions is its choices. -/
lemma connective (op : Connective) (f g : Expr) :
    Interchangeable functions bindings (.connect op [f, g]) (op.asChoice f g) := by
  constructor
  · rw [Expr.comesTo, Expr.comesTo, eval_connect, eval_asChoice]
    simp only [eval_truth]
    cases f.eval functions bindings >>= Value.holds with
    | error halt => rfl
    | ok b =>
      simp only [ok_bind]
      split
      case isTrue => cases b <;> rfl
      case isFalse =>
        cases g.eval functions bindings >>= Value.holds with
        | error halt => rfl
        | ok b => cases b <;> rfl
  · rw [visited_connect, visited_asChoice]
    cases f.eval functions bindings >>= Value.holds with
    | error halt => exact .refl _
    | ok b =>
      simp only [after]
      split
      case isTrue =>
        rw [List.append_nil]
        exact .truth _ b
      case isFalse =>
        cases g.eval functions bindings >>= Value.holds with
        | error halt =>
          rw [List.append_nil]
          exact .refl _
        | ok b =>
          rw [← List.append_assoc]
          exact .truth _ b

end Interchangeable

/-! ## In longer rows -/

section

variable {functions : Functions} {bindings : Bindings}

/-- Two conditions at the start of a longer row are decided as their connective by itself is. -/
lemma evalConnected_pair (op : Connective) (f g : Expr) (rest : List Expr) :
    evalConnected functions bindings op (f :: g :: rest) =
      evalConnected functions bindings op (.connect op [f, g] :: rest) := by
  rw [evalConnected, evalConnected, evalConnected, ← bind_assoc, ← bind_assoc, eval_connect]
  cases f.eval functions bindings >>= Value.holds with
  | error halt => rfl
  | ok b =>
    simp only [ok_bind]
    split
    case isTrue decided =>
      simp only [ok_bind, Value.holds, decided]
      rfl
    case isFalse =>
      rw [← bind_assoc]
      cases g.eval functions bindings >>= Value.holds with
      | error halt => rfl
      | ok b => rfl

lemma visitedConnected_pair (op : Connective) (f g : Expr) (rest : List Expr) :
    visitedConnected functions bindings op (f :: g :: rest) =
      visitedConnected functions bindings op (.connect op [f, g] :: rest) := by
  rw [visitedConnected, visitedConnected, visitedConnected, visited_connect, eval_connect]
  cases f.eval functions bindings >>= Value.holds with
  | error halt => simp [after]
  | ok b =>
    simp only [after, ok_bind]
    split
    case isTrue decided => simp [Value.holds, decided]
    case isFalse =>
      cases g.eval functions bindings >>= Value.holds with
      | error halt => simp
      | ok b => simp [Value.holds]

/-- Rows of conditions with the same beginning are decided alike where their ends are. -/
lemma evalConnected_row {op : Connective} {rest rest' : List Expr} (before : List Expr)
    (tail : evalConnected functions bindings op rest = evalConnected functions bindings op rest') :
    evalConnected functions bindings op (before ++ rest) =
      evalConnected functions bindings op (before ++ rest') := by
  induction before with
  | nil => exact tail
  | cons first before ih =>
    rw [List.cons_append, List.cons_append, evalConnected, evalConnected, ih]

lemma visitedConnected_row {op : Connective} {rest rest' : List Expr} (before : List Expr)
    (tail : visitedConnected functions bindings op rest =
      visitedConnected functions bindings op rest') :
    visitedConnected functions bindings op (before ++ rest) =
      visitedConnected functions bindings op (before ++ rest') := by
  induction before with
  | nil => exact tail
  | cons first before ih =>
    rw [List.cons_append, List.cons_append, visitedConnected, visitedConnected, ih]

/-- Two neighbours in a row of conditions are as their connective at one place of the row. -/
lemma Interchangeable.neighbours (op : Connective) (f g : Expr) (before rest : List Expr)
    (takes : ∀ f function, functions f = some function → TakesSettled function) :
    Interchangeable functions bindings (.connect op (before ++ f :: g :: rest))
      (.connect op (before ++ op.asChoice f g :: rest)) := by
  have own : Interchangeable functions bindings (.connect op [f, g]) (op.asChoice f g) :=
    connective op f g
  have pair := own.frame takes (.connect op before rest)
  constructor
  · refine Eq.trans ?_ pair.comesTo
    rw [Frame.fill, Expr.comesTo, Expr.comesTo, Expr.eval, Expr.eval,
      evalConnected_row before (evalConnected_pair op f g rest)]
  · rw [Expr.visited, visitedConnected_row before (visitedConnected_pair op f g rest)]
    exact pair.visits

end

/-- The formulas compute the same number or halt for the same cause, and come to the same leaves,
but for a written 1 or 0 that the second one may come to. -/
def EvaluatedAlike (bindings : Bindings) (e e' : Expr) : Prop :=
  e.number standard bindings = e'.number standard bindings ∧
    VisitsAlike (e.visited standard bindings) (e'.visited standard bindings)

/-- What is interchangeable in a formula is evaluated alike in it. -/
lemma Interchangeable.alike {bindings : Bindings} {e e' : Expr}
    (same : Interchangeable standard bindings e e') (around : Surroundings) :
    EvaluatedAlike bindings (around.fill e) (around.fill e') := by
  have whole := same.fill (fun _ _ => standard_takes) around
  exact ⟨whole.asNumber .result, whole.visits⟩

/-- **Connectives may be written as choices.** In every formula and at every place of it, a
conjunction, a disjunction and a negation may be replaced by the choices between 1 and 0 that come
to the same: whatever names stand for, the whole computes the same number or halts for the same
cause, and the same of its leaves are come to. Where two conditions stand in a longer row, they may
be replaced there. -/
theorem choices_for_connectives (bindings : Bindings) (around : Surroundings) (f g : Expr) :
    EvaluatedAlike bindings (around.fill (.connect .and [f, g]))
        (around.fill (.choice f (.choice g (.truth true) (.truth false)) (.truth false))) ∧
      EvaluatedAlike bindings (around.fill (.connect .or [f, g]))
        (around.fill (.choice f (.truth true) (.choice g (.truth true) (.truth false)))) ∧
      EvaluatedAlike bindings (around.fill (.unary .not f))
        (around.fill (.choice f (.truth false) (.truth true))) ∧
      ∀ op before rest, EvaluatedAlike bindings
        (around.fill (.connect op (before ++ f :: g :: rest)))
        (around.fill (.connect op (before ++ op.asChoice f g :: rest))) := by
  refine ⟨?_, ?_, ?_, fun op before rest => ?_⟩
  · exact (Interchangeable.connective .and f g).alike around
  · exact (Interchangeable.connective .or f g).alike around
  · exact (Interchangeable.negation f).alike around
  · exact (Interchangeable.neighbours op f g before rest fun _ _ => standard_takes).alike around

end Formula

end Inspection
