import Inspection.Proofs.Formula.Grammar

/-!
# Reading rows of operands

Arguments, operands with operators between them, chains of comparisons, and conditions with
connectives between them. With these every written formula is read back from its tokens
(`Expr.Writable.checkedOfTokens`).
-/

namespace Inspection.Formula

variable {ts ts' rest : List Token} {e e' : Expr} {fuel : Nat}

/-- The tokens of a formula where it has to bind so tight. -/
def Expr.tokensIn (needed : Nat) (e : Expr) : List Token :=
  tokensOf (enclose needed e.level e.pieces)

lemma tokensOf_append (ps qs : List Piece) : tokensOf (ps ++ qs) = tokensOf ps ++ tokensOf qs :=
  List.flatMap_append

lemma tokensOf_cons (p : Piece) (ps : List Piece) : tokensOf (p :: ps) = p.tokens ++ tokensOf ps :=
  rfl

/-- Steps that succeed on each element succeed on the whole list. -/
lemma mapM_map_ok {α β γ ε : Type} {k : α → β} {f : β → Except ε γ} {g : α → γ}
    (ok : ∀ x, f (k x) = .ok (g x)) (xs : List α) : (xs.map k).mapM f = .ok (xs.map g) := by
  induction xs with
  | nil => rfl
  | cons x xs ih =>
    rw [List.map_cons, List.mapM_cons, ok, ih]
    rfl

/-! ## Arguments -/

/-- An argument is read with those after it. -/
lemma arguments_of_reads (sole : Bool) (h : Reads 1 ts e) (plain : Unassigned ts)
    (ends : Ends rest) (enough : 24 * ts.length ≤ fuel) :
    arguments (fuel + 2) sole 0 (ts ++ rest) = (furtherArguments (fuel + 1) 0 rest).map
      fun ((args, isNamed), rest) => ((.ok e :: args, isNamed), rest) := by
  have own := h.expression.named_of_reads plain ends enough
  have last : startsClause rest = false := by
    obtain ⟨s, rest, rfl, -⟩ := ends
    rfl
  obtain ⟨t, ts, rfl, opens⟩ := h.opens
  rw [List.cons_append] at own ⊢
  rw [arguments]
  · simp only [if_pos, own, Option.bind_eq_bind, Option.bind_some, last, Bool.and_false,
      Bool.false_eq_true, if_false]
    cases furtherArguments (fuel + 1) 0 rest <;> rfl
  case x_7 =>
    intro n rest' same
    obtain ⟨-, same⟩ := List.cons.inj same
    cases ts with
    | nil =>
      obtain ⟨s, rest, rfl, ends⟩ := ends
      cases same
      rcases ends with same | same <;> cases same
    | cons t' ts =>
      cases same
      exact (plain _ (by simp)).1 rfl
  all_goals
    intro _ same
    obtain ⟨rfl, -⟩ := List.cons.inj same
    exact absurd opens (by decide)

/-- A further argument or the closing parenthesis ends an argument. -/
lemma ends_further (args : List Expr) (rest : List Token) :
    Ends (tokensOf (further .comma 0 args) ++ .symbol .closeParen :: rest) := by
  cases args with
  | nil => exact ⟨_, _, rfl, .inr rfl⟩
  | cons e args => exact ⟨_, _, rfl, .inl rfl⟩

/-- The arguments after one are read. -/
lemma furtherArguments_of_reads {args : List Expr} (h : ∀ e ∈ args, Reads 1 (e.tokensIn 0) e)
    (enough : 24 * (tokensOf (further .comma 0 args)).length + 1 ≤ fuel) :
    furtherArguments fuel 0 (tokensOf (further .comma 0 args) ++ .symbol .closeParen :: rest) =
      some ((args.map .ok, false), rest) := by
  induction args generalizing fuel with
  | nil =>
    obtain ⟨fuel, rfl⟩ : ∃ f, fuel = f + 1 := ⟨fuel - 1, by omega⟩
    rw [further, tokensOf, List.flatMap_nil, List.nil_append, furtherArguments]
    rfl
  | cons e args ih =>
    rw [further, List.cons_append, tokensOf_cons, tokensOf_append] at enough ⊢
    simp only [Piece.tokens, List.length_append, List.length_singleton] at enough
    obtain ⟨fuel, rfl⟩ : ∃ f, fuel = f + 3 := ⟨fuel - 3, by omega⟩
    have own := arguments_of_reads false (h e (by simp)) (unassigned_tokensOf _)
      (ends_further args rest) (show _ ≤ fuel by
        rw [Expr.tokensIn]
        omega)
    rw [Piece.tokens, List.append_assoc, List.append_assoc, List.singleton_append,
      furtherArguments, ← Expr.tokensIn, own, ih (fun e mem => h e (by simp [mem])) (by omega)]
    rfl

/-- The arguments of a call are read. -/
lemma arguments_of_listed {args : List Expr} (rest : List Token)
    (h : ∀ e ∈ args, Reads 1 (e.tokensIn 0) e)
    (enough : 24 * (tokensOf (listed .comma 0 args)).length + 2 ≤ fuel) :
    arguments fuel true 0 (tokensOf (listed .comma 0 args) ++ .symbol .closeParen :: rest) =
      some ((args.map .ok, false), rest) := by
  cases args with
  | nil =>
    obtain ⟨fuel, rfl⟩ : ∃ f, fuel = f + 1 := ⟨fuel - 1, by omega⟩
    rw [listed, tokensOf, List.flatMap_nil, List.nil_append, arguments]
    rfl
  | cons e args =>
    obtain ⟨fuel, rfl⟩ : ∃ f, fuel = f + 2 := ⟨fuel - 2, by omega⟩
    rw [listed, tokensOf_append] at enough ⊢
    rw [List.length_append] at enough
    have own := arguments_of_reads true (h e (by simp)) (unassigned_tokensOf _)
      (ends_further args rest) (show _ ≤ fuel by
        rw [Expr.tokensIn]
        omega)
    rw [List.append_assoc, ← Expr.tokensIn, own,
      furtherArguments_of_reads (fun e mem => h e (by simp [mem])) (by omega)]
    rfl

/-- A call is read. -/
lemma Reads.call {f : String} {args : List Expr} (other : f ≠ choiceCallee)
    (h : ∀ e ∈ args, Reads 1 (e.tokensIn 0) e) :
    Reads 9 (tokensOf (callee f ++ listed .comma 0 args ++ [.closing])) (.call f args) := by
  -- the conditional is called by a name of its own
  obtain ⟨n, start, named⟩ : ∃ n, tokensOf (callee f) = [.name n, .symbol .openParen] ∧
      (if n = choiceCallee then choiceName else n) = f := by
    by_cases choice : f = choiceName
    · exact ⟨choiceCallee, by rw [callee, if_pos choice]; rfl, by rw [if_pos rfl, choice]⟩
    · exact ⟨f, by rw [callee, if_neg choice]; rfl, if_neg other⟩
  rw [tokensOf_append, tokensOf_append, start]
  refine ⟨⟨_, _, rfl, Nat.le_refl _⟩, fun fuel rest stops enough => ?_⟩
  simp only [steps, List.length_append, List.length_cons, List.length_nil] at enough
  obtain ⟨fuel, rfl⟩ : ∃ f, fuel = f + 4 := ⟨fuel - 4, by omega⟩
  have inner := arguments_of_listed rest h (show _ ≤ fuel + 2 by omega)
  change primary (fuel + 4) _ = _
  rw [List.append_assoc, List.append_assoc, List.cons_append, List.cons_append, primary, atom]
  simp only [Option.bind_eq_bind, Option.bind_some, List.nil_append]
  rw [trailers]
  change (arguments (fuel + 2) true 0 (tokensOf (listed .comma 0 args) ++
    .symbol .closeParen :: rest)).bind _ = _
  rw [inner]
  have plain : (args.map Except.ok : List Checked).mapM id = .ok (args.map id) :=
    mapM_map_ok (f := id) (g := id) (fun _ => rfl) args
  simp only [Option.bind_some, trailers_of_stops stops, Checked.call, plain, named, List.map_id]
  rfl

/-! ## Operators in a row -/

/-- Tokens that are read as operands with operators of a binary level between them, sums or
products, before the operators that follow. -/
structure Gathers (k : Nat) (ts : List Token) (e : Expr) : Prop where
  opens : ∃ t rest, ts = t :: rest ∧ k + 2 ≤ t.opens
  gathers : ∀ fuel rest, Stops (k + 3) rest → 24 * ts.length ≤ fuel + steps (k + 2) →
    ∃ fuel', fuel ≤ fuel' + ts.length ∧
      binary fuel k (ts ++ rest) = binaryRest fuel' k (.ok e) rest

/-- The binary levels whose operators formulas have. -/
def Gathered (k : Nat) : Prop :=
  k = 3 ∨ k = 4

/-- What binds tighter than the operators of a level is read as their operand. -/
lemma Reads.tighter {k : Nat} (h : Reads (k + 3) ts e) (gathered : Gathered k)
    (stops : Stops (k + 3) rest) (enough : 24 * ts.length ≤ fuel + steps (k + 2) + 1) :
    binary fuel (k + 1) (ts ++ rest) = some (.ok e, rest) := by
  obtain ⟨t, ts, rfl, -⟩ := h.opens
  rw [List.length_cons] at enough
  rcases gathered with rfl | rfl
  · exact h.reads fuel rest stops enough
  · simp only [steps] at enough
    obtain ⟨fuel, rfl⟩ : ∃ f, fuel = f + 1 := ⟨fuel - 1, by omega⟩
    rw [binary, if_pos (by decide)]
    exact h.reads fuel rest stops (by simp only [steps, List.length_cons]; omega)

namespace Gathers

/-- The first operand of a row is read. -/
lemma first {k : Nat} (h : Reads (k + 3) ts e) (gathered : Gathered k) : Gathers k ts e := by
  obtain ⟨t, ts, rfl, opens⟩ := h.opens
  refine ⟨⟨t, ts, rfl, by omega⟩, fun fuel rest stops enough => ?_⟩
  have few : steps (k + 2) ≤ 13 := by rcases gathered with rfl | rfl <;> decide
  rw [List.length_cons] at enough
  obtain ⟨fuel, rfl⟩ : ∃ f, fuel = f + 1 := ⟨fuel - 1, by omega⟩
  have small : ¬ binaryLevels ≤ k := by rcases gathered with rfl | rfl <;> decide
  refine ⟨fuel, by rw [List.length_cons]; omega, ?_⟩
  rw [binary, if_neg small, h.tighter gathered stops (by rw [List.length_cons]; omega)]
  rfl

/-- A further operand of a row is read. -/
lemma next {k : Nat} {op : Arith} (h : Gathers k ts e) (h' : Reads (k + 3) ts' e')
    (gathered : Gathered k) (level : op.level = k + 2) :
    Gathers k (ts ++ .symbol op.symbol :: ts') (.arith op e e') := by
  obtain ⟨⟨t, more, start, opens⟩, gathers⟩ := h
  refine ⟨⟨t, _, by rw [start]; rfl, opens⟩, fun fuel rest stops enough => ?_⟩
  have found : binaryOperator? k op.symbol = some (.inr op) := by
    rcases gathered with rfl | rfl <;> cases op <;> first | rfl | exact absurd level (by decide)
  have binds : Stops (k + 3) (.symbol op.symbol :: (ts' ++ rest)) := by
    rintro _ ⟨⟩
    rcases gathered with rfl | rfl <;> cases op <;>
      first | decide | exact absurd level (by decide)
  have few : steps (k + 2) ≤ 13 := by rcases gathered with rfl | rfl <;> decide
  have some : 1 ≤ ts.length := by rw [start]; exact Nat.succ_pos _
  rw [List.length_append, List.length_cons] at enough
  obtain ⟨fuel', left, read⟩ := gathers fuel _ binds (by omega)
  obtain ⟨fuel', rfl⟩ : ∃ f, fuel' = f + 1 := ⟨fuel' - 1, by omega⟩
  refine ⟨fuel', by rw [List.length_append, List.length_cons]; omega, ?_⟩
  rw [List.append_assoc, List.cons_append, read, binaryRest, found]
  simp only [h'.tighter gathered stops (show _ ≤ fuel' + _ + _ by omega), Option.bind_eq_bind,
    Option.bind_some]
  rfl

/-- A whole row of operands is read. -/
lemma whole {k : Nat} (h : Gathers k ts e) (gathered : Gathered k) : Reads (k + 2) ts e := by
  obtain ⟨⟨t, more, start, opens⟩, gathers⟩ := h
  refine ⟨⟨t, more, start, opens⟩, fun fuel rest stops enough => ?_⟩
  have few : steps (k + 2) ≤ 13 := by rcases gathered with rfl | rfl <;> decide
  have some : 1 ≤ ts.length := by rw [start]; exact Nat.succ_pos _
  have stops : Stops (k + 2) rest := stops.mono (by omega)
  obtain ⟨fuel', left, read⟩ := gathers fuel rest (stops.mono (by omega)) enough
  obtain ⟨fuel', rfl⟩ : ∃ f, fuel' = f + 1 := ⟨fuel' - 1, by omega⟩
  rcases gathered with rfl | rfl
  · exact read.trans (binaryRest_of_stops (stops.mono (by decide)) (.inr stops))
  · exact read.trans (binaryRest_of_stops stops (.inl rfl))

end Gathers

/-! ## Chains of comparisons -/

/-- A compared operand is read. -/
lemma Reads.compared (h : Reads 5 ts e) (stops : Stops 5 rest)
    (enough : 24 * ts.length ≤ fuel + 5) :
    binary fuel 0 (ts ++ rest) = some (.ok e, rest) := by
  obtain ⟨t, ts, rfl, -⟩ := h.opens
  rw [List.length_cons] at enough
  obtain ⟨fuel, rfl⟩ : ∃ f, fuel = f + 4 := ⟨fuel - 4, by omega⟩
  exact operand stops (h.reads _ rest stops (by simp only [steps, List.length_cons]; omega))

/-- A comparison ends an operand. -/
lemma stops_furtherRelated (rs : List (Relation × Expr)) (stops : Stops 4 rest) :
    Stops 5 (tokensOf (furtherRelated rs) ++ rest) := by
  cases rs with
  | nil => exact stops.mono (by decide)
  | cons x rs =>
    obtain ⟨r, e⟩ := x
    rintro _ ⟨⟩
    cases r <;> decide

/-- The comparisons of a chain are read. -/
lemma comparisons_of_reads {rs : List (Relation × Expr)}
    (h : ∀ x ∈ rs, Reads 5 (x.2.tokensIn (compareLevel + 1)) x.2) (stops : Stops 4 rest)
    (enough : 24 * (tokensOf (furtherRelated rs)).length + 1 ≤ fuel) :
    comparisons fuel (tokensOf (furtherRelated rs) ++ rest) =
      some (rs.map fun x => (.inr x.1, .ok x.2), rest) := by
  induction rs generalizing fuel with
  | nil =>
    obtain ⟨fuel, rfl⟩ : ∃ f, fuel = f + 1 := ⟨fuel - 1, by omega⟩
    exact Reads.comparisons_of_stops stops
  | cons x rs ih =>
    obtain ⟨r, e⟩ := x
    rw [furtherRelated, List.cons_append, tokensOf_cons, tokensOf_append] at enough ⊢
    simp only [Piece.tokens, List.length_append, List.length_singleton] at enough
    obtain ⟨fuel, rfl⟩ : ∃ f, fuel = f + 1 := ⟨fuel - 1, by omega⟩
    have own := (h _ (.head _)).compared (stops_furtherRelated rs stops) (show _ ≤ fuel + 5 by
      simp only [Expr.tokensIn]
      omega)
    have start : ∀ ts, relation? (.symbol r.symbol :: ts) = some (.inr r, ts) := by
      intro ts
      cases r <;> rfl
    rw [Piece.tokens, List.append_assoc, List.append_assoc, List.singleton_append, comparisons,
      start]
    change (binary fuel 0 (e.tokensIn (compareLevel + 1) ++ _)).bind _ = _
    have more := ih (fun x mem => h x (.tail _ mem)) (show _ ≤ fuel by omega)
    simp only [own, Option.bind_some, Option.bind_eq_bind, more]
    rfl

/-- A chain of comparisons without a reason against any part has none. -/
lemma compare_ok (e : Expr) (rs : List (Relation × Expr)) :
    Checked.compare (.ok e) (rs.map fun x => (.inr x.1, .ok x.2)) = .ok (.compare e rs) := by
  have relations : ∀ rs : List Relation, Checked.relations (rs.map .inr) = .ok rs := by
    intro rs
    induction rs with
    | nil => rfl
    | cons r rs ih =>
      rw [List.map_cons, Checked.relations, ih]
      rfl
  have operands := mapM_map_ok (ε := Unsupported) (f := Prod.snd) (g := Prod.snd)
    (k := fun x : Relation × Expr => ((.inr x.1 : ForeignRelation ⊕ Relation), .ok x.2))
    (fun _ => rfl) rs
  have found : (rs.map fun x => ((.inr x.1 : ForeignRelation ⊕ Relation),
      (.ok x.2 : Checked))).map Prod.fst = (rs.map Prod.fst).map .inr := by
    rw [List.map_map, List.map_map]
    rfl
  rw [Checked.compare, found, relations, operands]
  change Except.ok (Expr.compare e ((rs.map Prod.fst).zip (rs.map Prod.snd))) = _
  rw [List.zip_map']
  simp

/-- A chain of comparisons is read. -/
lemma Reads.compare {rs : List (Relation × Expr)} (some : rs ≠ [])
    (first : Reads 5 (e.tokensIn (compareLevel + 1)) e)
    (h : ∀ x ∈ rs, Reads 5 (x.2.tokensIn (compareLevel + 1)) x.2) :
    Reads 4 (e.tokensIn (compareLevel + 1) ++ tokensOf (furtherRelated rs)) (.compare e rs) := by
  obtain ⟨t, more, start, opens⟩ := first.opens
  refine ⟨⟨t, _, by rw [start]; rfl, by omega⟩, fun fuel rest stops enough => ?_⟩
  simp only [steps, List.length_append] at enough
  obtain ⟨fuel, rfl⟩ : ∃ f, fuel = f + 1 := ⟨fuel - 1, by
    rw [start, List.length_cons] at enough
    omega⟩
  have own := first.compared (stops_furtherRelated rs stops) (show _ ≤ fuel + 5 by omega)
  change Formula.comparison (fuel + 1) _ = _
  rw [List.append_assoc, Formula.comparison, own]
  simp only [Option.bind_eq_bind, Option.bind_some]
  rw [comparisons_of_reads h stops (by rw [start, List.length_cons] at enough; omega)]
  simp only [Option.bind_some]
  rw [if_neg (by simpa using some), compare_ok]
  rfl

/-! ## Conditions with connectives between them -/

/-- The conditions after the word of a connective. -/
def Connective.more : Connective → (fuel : Nat) → List Token →
    Option (List Checked × List Token)
  | and => conjuncts
  | or => disjuncts

lemma Connective.more_word (op : Connective) (fuel : Nat) (ts : List Token) :
    op.more (fuel + 1) (.word op.word :: ts) = (do
      let (operand, ts) ← parser (op.level + 1) fuel ts
      let (more, ts) ← op.more fuel ts
      return (operand :: more, ts)) := by
  cases op with
  | and => rw [more, word, conjuncts]; rfl
  | or => rw [more, word, disjuncts]; rfl

lemma Connective.parser_level (op : Connective) (fuel : Nat) (ts : List Token) :
    parser op.level (fuel + 1) ts = (do
      let (first, ts) ← parser (op.level + 1) fuel ts
      let (more, ts) ← op.more fuel ts
      return (if more.isEmpty then first else .connect op (first :: more), ts)) := by
  cases op with
  | and => rw [level, parser, conjunction]; rfl
  | or => rw [level, parser, disjunction]; rfl

lemma Connective.more_of_stops (op : Connective) (stops : Stops op.level rest) :
    op.more (fuel + 1) rest = some ([], rest) := by
  cases op with
  | and => exact Reads.conjuncts_of_stops stops
  | or => exact Reads.disjuncts_of_stops stops

/-- A connective ends a condition. -/
lemma Connective.stops_further (op : Connective) (needed : Nat) (es : List Expr)
    (stops : Stops op.level rest) :
    Stops (op.level + 1) (tokensOf (further (.connective op) needed es) ++ rest) := by
  cases es with
  | nil => exact stops.mono (Nat.le_succ _)
  | cons e es =>
    rintro _ ⟨⟩
    cases op <;> decide

/-- The conditions after one are read. -/
lemma Connective.more_of_reads {op : Connective} {es : List Expr}
    (h : ∀ e ∈ es, Reads (op.level + 1) (e.tokensIn (op.level + 1)) e) (stops : Stops op.level rest)
    (enough : 24 * (tokensOf (further (.connective op) (op.level + 1) es)).length + 1 ≤ fuel) :
    op.more fuel (tokensOf (further (.connective op) (op.level + 1) es) ++ rest) =
      some (es.map .ok, rest) := by
  induction es generalizing fuel with
  | nil =>
    obtain ⟨fuel, rfl⟩ : ∃ f, fuel = f + 1 := ⟨fuel - 1, by omega⟩
    exact op.more_of_stops stops
  | cons e es ih =>
    rw [further, List.cons_append, tokensOf_cons, tokensOf_append] at enough ⊢
    simp only [Piece.tokens, List.length_append, List.length_singleton] at enough
    obtain ⟨fuel, rfl⟩ : ∃ f, fuel = f + 1 := ⟨fuel - 1, by omega⟩
    have own := (h e (.head _)).reads fuel _
      ((op.stops_further (op.level + 1) es stops).mono (Nat.le_max_right 1 _)) (by
        simp only [Expr.tokensIn]
        omega)
    have more := ih (fun e mem => h e (.tail _ mem)) (show _ ≤ fuel by omega)
    rw [Piece.tokens, List.append_assoc, List.append_assoc, List.singleton_append, op.more_word,
      ← Expr.tokensIn, own]
    simp only [Option.bind_eq_bind, Option.bind_some, more]
    rfl

/-- Conditions with connectives between them are read. -/
lemma Reads.connect {op : Connective} {es : List Expr} (several : 2 ≤ es.length)
    (h : ∀ e ∈ es, Reads (op.level + 1) (e.tokensIn (op.level + 1)) e) :
    Reads op.level (tokensOf (listed (.connective op) (op.level + 1) es)) (.connect op es) := by
  cases es with
  | nil => exact absurd several (by decide)
  | cons e es =>
    rw [listed, tokensOf_append]
    obtain ⟨t, ts, start, opens⟩ := (h e (.head _)).opens
    refine ⟨⟨t, _, by rw [← Expr.tokensIn, start]; rfl, by omega⟩,
      fun fuel rest stops enough => ?_⟩
    have few : steps op.level ≤ 13 := by cases op <;> decide
    have next : steps (op.level + 1) = steps op.level + 1 := by cases op <;> rfl
    have stops : Stops op.level rest := stops.mono (by cases op <;> decide)
    rw [← Expr.tokensIn, List.length_append] at enough
    have some : 1 ≤ (e.tokensIn (op.level + 1)).length := by rw [start]; exact Nat.succ_pos _
    obtain ⟨fuel, rfl⟩ : ∃ f, fuel = f + 1 := ⟨fuel - 1, by omega⟩
    have own := (h e (.head _)).reads fuel _
      ((op.stops_further (op.level + 1) es stops).mono (Nat.le_max_right 1 _)) (by omega)
    have more := op.more_of_reads (fun e mem => h e (.tail _ mem)) stops
      (show _ ≤ fuel by omega)
    rw [op.parser_level, List.append_assoc, ← Expr.tokensIn, own]
    simp only [Option.bind_eq_bind, Option.bind_some, more]
    have further : (es.map Except.ok : List Checked).isEmpty = false := by
      cases es with
      | nil => exact absurd several (by simp)
      | cons => rfl
    have plain : ((e :: es).map Except.ok : List Checked).mapM id = .ok ((e :: es).map id) :=
      mapM_map_ok (f := id) (g := id) (fun _ => rfl) _
    rw [further, Checked.connect, ← List.map_cons, plain, List.map_id]
    rfl

/-! ## Formulas -/

namespace Expr

/-- A formula binds, and at most as tight as an atom. -/
lemma level_bounds (e : Expr) : 1 ≤ e.level ∧ e.level ≤ 9 := by
  cases e with
  | unary op | arith op | connect op =>
    cases op <;> exact ⟨Nat.le_of_ble_eq_true rfl, Nat.le_of_ble_eq_true rfl⟩
  | _ => exact ⟨Nat.le_of_ble_eq_true rfl, Nat.le_of_ble_eq_true rfl⟩

/-- The pieces of a formula are read on its level; those of a sum or a product also as a row. -/
structure Read (e : Expr) : Prop where
  reads : Reads e.level (tokensOf e.pieces) e
  gathers : ∀ k, Gathered k → k + 2 ≤ e.level → Gathers k (tokensOf e.pieces) e

namespace Read

/-- What binds tighter than the operators of a row is one operand of it. -/
lemma of_reads (h : Reads e.level (tokensOf e.pieces) e)
    (rows : ∀ k, Gathered k → e.level = k + 2 → Gathers k (tokensOf e.pieces) e) : e.Read where
  reads := h
  gathers k gathered tight := by
    by_cases same : e.level = k + 2
    · exact rows k gathered same
    · exact .first (h.mono e.level_bounds.2 (by omega)) gathered

/-- A formula that binds too loose is read in parentheses. -/
lemma parens (h : e.Read) :
    Reads 9 (tokensOf (.opening :: e.pieces ++ [.closing])) e := by
  rw [tokensOf_append]
  exact (h.reads.mono e.level_bounds.2 e.level_bounds.1).parens (unassigned_tokensOf _)

/-- A formula is read where it has to bind so tight. -/
lemma enclosed {needed : Nat} (h : e.Read) (le : needed ≤ 9) :
    Reads needed (e.tokensIn needed) e := by
  rw [tokensIn, enclose]
  split_ifs with loose
  · exact h.parens.mono (Nat.le_refl _) le
  · exact h.reads.mono e.level_bounds.2 (Nat.le_of_not_lt loose)

/-- A formula is read at the start of a row. -/
lemma row {k : Nat} (h : e.Read) (gathered : Gathered k) : Gathers k (e.tokensIn (k + 2)) e := by
  have le : k + 3 ≤ 9 := by rcases gathered with rfl | rfl <;> decide
  rw [tokensIn, enclose]
  split_ifs with loose
  · exact .first (h.parens.mono (Nat.le_refl _) le) gathered
  · exact h.gathers k gathered (Nat.le_of_not_lt loose)

end Read

/-- The pieces of every written formula are read. -/
lemma Writable.read (writable : e.Writable) : e.Read := by
  induction writable with
  | integer | float => exact .of_reads (Reads.number _) nofun
  | name => exact .of_reads (Reads.name _) nofun
  | @unary op e _ ih =>
    have operand := ih.enclosed (show signLevel ≤ 9 by decide)
    cases op with
    -- a negation is read as an atom, for it stands in parentheses of its own
    | not =>
      have negated := (ih.enclosed (show notLevel ≤ 9 by decide)).negation
      refine .of_reads ?_ nofun
      rw [pieces, tokensOf_append]
      exact (negated.mono (by decide) (by decide)).parens (unassigned_tokensOf (.unary .not :: _))
    | plus => exact .of_reads (Reads.signed nofun operand) nofun
    | minus => exact .of_reads (Reads.signed nofun operand) nofun
  | @arith op a b _ _ ih ih' =>
    have rows : ∀ k, Gathered k → op.level = k + 2 →
        Gathers k (tokensOf (Expr.arith op a b).pieces) (.arith op a b) := by
      intro k gathered level
      have left : op.leftLevel = k + 2 := by
        rcases gathered with rfl | rfl <;> cases op <;> first | rfl | exact absurd level (by decide)
      have right : op.rightLevel = k + 3 := by
        rcases gathered with rfl | rfl <;> cases op <;> first | rfl | exact absurd level (by decide)
      have le : k + 3 ≤ 9 := by rcases gathered with rfl | rfl <;> decide
      rw [pieces, tokensOf_append, left, right]
      exact (ih.row gathered).next (ih'.enclosed le) gathered level
    -- sums and products are rows that may go on, a power is read from the right
    cases op with
    | add | sub => exact .of_reads ((rows 3 (.inl rfl) rfl).whole (.inl rfl)) rows
    | mul | div => exact .of_reads ((rows 4 (.inr rfl) rfl).whole (.inr rfl)) rows
    | pow =>
      refine .of_reads ?_ nofun
      rw [pieces, tokensOf_append]
      exact (ih.enclosed (by decide)).raised (ih'.enclosed (by decide))
  | compare _ some _ ih ih' =>
    refine .of_reads ?_ nofun
    rw [pieces, tokensOf_append]
    exact Reads.compare some (ih.enclosed (by decide))
      fun x mem => (ih' x mem).enclosed (by decide)
  | @connect op es several _ ih =>
    have le : op.level + 1 ≤ 9 := by cases op <;> decide
    refine .of_reads (Reads.connect several fun e mem => (ih e mem).enclosed le) ?_
    cases op <;> nofun
  | call named _ ih =>
    refine .of_reads (Reads.call ?_ fun e mem => ?_) nofun
    · rcases named with rfl | plain
      · decide
      · exact plain.other
    · exact (ih e mem).reads.mono e.level_bounds.2 e.level_bounds.1

/-- A written formula is read back from its tokens. -/
lemma Writable.checkedOfTokens (writable : e.Writable)
    (enough : 24 * (tokensOf e.pieces).length ≤ fuel) :
    checkedOfTokens? fuel (tokensOf e.pieces) = some (.ok e) := by
  have reads := (writable.read.enclosed (Nat.zero_le 9)).reads fuel [] nofun enough
  rw [tokensIn, enclose, if_neg (Nat.not_lt_zero _), List.append_nil] at reads
  change expression fuel _ = _ at reads
  rw [checkedOfTokens?, reads]
  rfl

end Expr

end Inspection.Formula
