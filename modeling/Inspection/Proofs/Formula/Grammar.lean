import Inspection.Formula.Grammar
import Inspection.Proofs.Formula.Writing

/-!
# Reading written formulas

The parser of each level reads what binds at least that tight, up to a token that binds less.
-/

namespace Inspection.Formula

/-- The symbol of an operator between numbers. -/
def Arith.symbol : Arith → Symbol
  | add => .plus
  | sub => .minus
  | mul => .star
  | div => .slash
  | pow => .power

/-- The symbol of a comparison. -/
def Relation.symbol : Relation → Symbol
  | eq => .equal
  | ne => .notEqual
  | lt => .less
  | le => .lessEqual
  | gt => .greater
  | ge => .greaterEqual

/-- The word of a connective. -/
def Connective.word : Connective → String
  | and => "and"
  | or => "or"

/-- The token of an operator before an operand. -/
def Unary.token : Unary → Token
  | plus => .symbol .plus
  | minus => .symbol .minus
  | not => .word "not"

/-- The tokens of a piece. -/
def Piece.tokens : Piece → List Token
  | name n => [.name n]
  | number l => [.number (.real l)]
  | choice => [.name choiceCallee, .symbol .openParen]
  | unary op => [op.token]
  | arith op => [.symbol op.symbol]
  | relation r => [.symbol r.symbol]
  | connective op => [.word op.word]
  | opening => [.symbol .openParen]
  | closing => [.symbol .closeParen]
  | comma => [.symbol .comma]

/-- The tokens of pieces. -/
def tokensOf (ps : List Piece) : List Token :=
  ps.flatMap Piece.tokens

/-- How tight what a token stands for binds; what ends an argument or a parenthesis does not bind at
all, and what no operand ends before binds tightest. -/
def Token.level : Token → Nat
  | .symbol .closeParen | .symbol .comma => 0
  | .word w => if w = "or" then 1 else if w = "and" then 2 else atomLevel
  | .symbol .equal | .symbol .notEqual | .symbol .less | .symbol .lessEqual
  | .symbol .greater | .symbol .greaterEqual => 4
  | .symbol .plus | .symbol .minus => 5
  | .symbol .star | .symbol .slash => 6
  | .symbol .power => 8
  | _ => atomLevel

/-- What follows binds less than a level. -/
def Stops (level : Nat) (rest : List Token) : Prop :=
  ∀ t ∈ rest.head?, t.level < level

/-- The parser of a level. -/
def parser : (level : Nat) → (fuel : Nat) → List Token → Option (Checked × List Token)
  | 0 => expression
  | 1 => disjunction
  | 2 => conjunction
  | 3 => inversion
  | 4 => comparison
  | 5 => fun fuel => binary fuel 3
  | 6 => fun fuel => binary fuel 4
  | 7 => factor
  | 8 => power
  | _ => primary

/-- How many steps the parser of a level comes after that of an expression. -/
def steps : (level : Nat) → Nat
  | 0 => 0
  | 1 => 1
  | 2 => 2
  | 3 => 3
  | 4 => 4
  | 5 => 8
  | 6 => 9
  | 7 => 11
  | 8 => 12
  | _ => 13

/-- How tight what starts with a token binds at most: negations, signs, and atoms. -/
def Token.opens : Token → Nat
  | .word w => if w = "not" then notLevel else 0
  | .symbol .plus | .symbol .minus => signLevel
  | .name _ | .number _ | .symbol .openParen => atomLevel
  | _ => 0

/-- Tokens that are read as a formula by the parser of a level. -/
structure Reads (level : Nat) (ts : List Token) (e : Expr) : Prop where
  opens : ∃ t rest, ts = t :: rest ∧ level ≤ t.opens
  -- 24 steps for each token are enough, and the parser of a level is some of them ahead
  reads : ∀ fuel rest, Stops (max 1 level) rest → 24 * ts.length ≤ fuel + steps level →
    parser level fuel (ts ++ rest) = some (.ok e, rest)

/-- No token gives a name to what follows. -/
def Unassigned (ts : List Token) : Prop :=
  ∀ t ∈ ts, t ≠ .symbol .assign ∧ t ≠ .symbol .walrus

/-- What follows ends an argument or a parenthesis. -/
def Ends (rest : List Token) : Prop :=
  ∃ s rest', rest = .symbol s :: rest' ∧ (s = .comma ∨ s = .closeParen)

variable {ts rest : List Token} {e : Expr} {fuel : Nat}

lemma Stops.mono {j k : Nat} (stops : Stops j rest) (le : j ≤ k) : Stops k rest :=
  fun t mem => (stops t mem).trans_le le

/-- The tokens of pieces hold no assignment. -/
lemma unassigned_tokensOf (ps : List Piece) : Unassigned (tokensOf ps) := by
  intro t mem
  obtain ⟨p, -, mem⟩ := List.mem_flatMap.1 mem
  cases p with
  | unary op | arith op | relation op | connective op =>
    rw [List.mem_singleton.1 mem]
    cases op <;> decide
  | choice =>
    rcases List.mem_pair.1 mem with rfl | rfl
    · exact ⟨nofun, nofun⟩
    · decide
  | _ =>
    rw [List.mem_singleton.1 mem]
    exact ⟨nofun, nofun⟩

/-- No token binds as tight as a sign: what stops a power stops a signed one as well. -/
lemma Stops.seven (stops : Stops 8 rest) : Stops 7 rest := by
  intro t mem
  have less := stops t mem
  have other : t.level ≠ 7 := by
    unfold Token.level
    split
    case h_3 => split_ifs <;> decide
    all_goals decide
  omega

/-- No word starts what binds as tight as a comparison. -/
lemma Token.opens_word (w : String) : (Token.word w).opens ≤ notLevel := by
  rw [opens]
  split
  · exact Nat.le_refl _
  · exact Nat.zero_le _

/-- Where no call follows, a value is read. -/
lemma trailers_of_stops {value : Checked} (stops : Stops atomLevel rest) :
    trailers (fuel + 1) value rest = some (value, rest) := by
  rw [trailers]
  · rintro _ _ rfl
    exact absurd (stops _ rfl) (by decide)
  · rintro _ rfl
    exact absurd (stops _ rfl) (by decide)
  · rintro _ rfl
    exact absurd (stops _ rfl) (by decide)

/-- Where no operator of a level follows, an operand is read. -/
lemma binaryRest_of_stops {k : Nat} {left : Checked} (stops : Stops 6 rest)
    (looser : k = 4 ∨ Stops 5 rest) : binaryRest (fuel + 1) k left rest = some (left, rest) := by
  cases rest with
  | nil => rw [binaryRest]; rintro _ _ ⟨⟩
  | cons t rest =>
    cases t with
    | symbol s =>
      have none : binaryOperator? k s = none := by
        rcases looser with rfl | looser
        · have low := stops _ rfl
          cases s <;> first | rfl | exact absurd low (by decide)
        · have low := looser _ rfl
          unfold binaryOperator?
          split
          case h_12 => rfl
          all_goals exact absurd low (by decide)
      rw [binaryRest, none]
    | _ => rw [binaryRest]; rintro _ _ ⟨⟩

namespace Reads

/-- What is read on one level is read on the one below, if the parser there comes to that of the
level above in so many steps. -/
lemma lift {k d : Nat} (h : Reads (k + 1) ts e) (gap : steps (k + 1) = steps k + d)
    (step : ∀ {t ts fuel rest}, k + 1 ≤ t.opens → Stops (max 1 k) rest →
      parser (k + 1) (fuel + 1) (t :: (ts ++ rest)) = some (.ok e, rest) →
        parser k (fuel + 1 + d) (t :: (ts ++ rest)) = some (.ok e, rest)) : Reads k ts e := by
  obtain ⟨t, ts, rfl, opens⟩ := h.opens
  refine ⟨⟨t, ts, rfl, (Nat.le_succ k).trans opens⟩, fun fuel rest stops enough => ?_⟩
  have few : steps (k + 1) ≤ 13 := by unfold steps; split <;> decide
  have some : 1 ≤ (t :: ts).length := Nat.succ_pos _
  obtain ⟨fuel, rfl⟩ : ∃ f, fuel = f + 1 + d := ⟨fuel - 1 - d, by omega⟩
  exact step opens stops (h.reads (fuel + 1) rest (stops.mono (by omega)) (by omega))

/-- What starts with no operator is read as a power. -/
lemma power (h : Reads 9 ts e) : Reads 8 ts e := by
  refine h.lift (d := 1) rfl fun {t ts fuel rest} opens stops base => ?_
  change primary (fuel + 1) _ = _ at base
  change Formula.power (fuel + 2) _ = _
  rw [Formula.power]
  · rw [base]
    simp only [Option.bind_eq_bind, Option.bind_some]
    split
    case h_1 => exact absurd (stops _ rfl) (by decide)
    case h_2 => rfl
  · rintro _ ⟨⟩
    exact absurd (opens.trans (Token.opens_word _)) (by decide)

/-- What starts with no sign is read as a factor. -/
lemma factor (h : Reads 8 ts e) : Reads 7 ts e := by
  refine h.lift (d := 1) rfl fun {t ts fuel rest} opens stops base => ?_
  change Formula.factor (fuel + 2) _ = _
  rw [Formula.factor]
  · exact base
  all_goals
    rintro _ ⟨⟩
    exact absurd opens (by decide)

/-- What is read where operands of one binary level may be is read on that level. -/
lemma binary_pass {k : Nat} (small : k < 5) (stops : Stops 6 rest) (looser : k = 4 ∨ Stops 5 rest)
    (h : binary (fuel + 1) (k + 1) ts = some (.ok e, rest)) :
    binary (fuel + 2) k ts = some (.ok e, rest) := by
  rw [binary, if_neg (by simpa [binaryLevels] using small), h]
  exact binaryRest_of_stops stops looser

/-- A factor is read as a product. -/
lemma product (h : Reads 7 ts e) : Reads 6 ts e := by
  refine h.lift (d := 2) rfl fun {t ts fuel rest} opens stops base => ?_
  refine binary_pass (by decide) stops (.inl rfl) ?_
  rw [binary, if_pos (by decide)]
  exact base

/-- A product is read as a sum. -/
lemma sum (h : Reads 6 ts e) : Reads 5 ts e :=
  h.lift (d := 1) rfl fun _ stops base =>
    binary_pass (by decide) (stops.mono (by decide)) (.inr stops) base

/-- Where no comparison follows, none is read. -/
lemma comparisons_of_stops (stops : Stops 4 rest) :
    comparisons (fuel + 1) rest = some ([], rest) := by
  have none : relation? rest = none := by
    unfold relation?
    split
    case h_11 => rfl
    all_goals exact absurd (stops _ rfl) (by decide)
  rw [comparisons, none]

/-- What is read as a sum is read as a compared operand. -/
lemma operand (stops : Stops 5 rest) (h : binary (fuel + 1) 3 ts = some (.ok e, rest)) :
    binary (fuel + 4) 0 ts = some (.ok e, rest) := by
  have tight : Stops 6 rest := stops.mono (by decide)
  refine binary_pass (by decide) tight (.inr stops) ?_
  refine binary_pass (by decide) tight (.inr stops) ?_
  exact binary_pass (by decide) tight (.inr stops) h

/-- A sum is read as a comparison. -/
lemma comparison (h : Reads 5 ts e) : Reads 4 ts e := by
  refine h.lift (d := 4) rfl fun {t ts fuel rest} opens stops base => ?_
  change Formula.comparison (fuel + 5) _ = _
  rw [Formula.comparison, operand (stops.mono (by decide)) base]
  simp only [Option.bind_eq_bind, Option.bind_some, comparisons_of_stops stops]
  rfl

/-- What starts with no negation is read as a condition. -/
lemma inversion (h : Reads 4 ts e) : Reads 3 ts e := by
  refine h.lift (d := 1) rfl fun {t ts fuel rest} opens stops base => ?_
  change Formula.inversion (fuel + 2) _ = _
  rw [Formula.inversion]
  · exact base
  · rintro _ ⟨⟩
    exact absurd opens (by decide)

/-- Where no `and` follows, no further condition is read. -/
lemma conjuncts_of_stops (stops : Stops 2 rest) : conjuncts (fuel + 1) rest = some ([], rest) := by
  rw [conjuncts]
  rintro _ rfl
  exact absurd (stops _ rfl) (by decide)

/-- Where no `or` follows, no further condition is read. -/
lemma disjuncts_of_stops (stops : Stops 1 rest) : disjuncts (fuel + 1) rest = some ([], rest) := by
  rw [disjuncts]
  rintro _ rfl
  exact absurd (stops _ rfl) (by decide)

/-- One condition is read as a conjunction. -/
lemma conjunction (h : Reads 3 ts e) : Reads 2 ts e := by
  refine h.lift (d := 1) rfl fun {t ts fuel rest} opens stops base => ?_
  change Formula.inversion (fuel + 1) _ = _ at base
  change Formula.conjunction (fuel + 2) _ = _
  rw [Formula.conjunction, base]
  simp only [Option.bind_eq_bind, Option.bind_some, conjuncts_of_stops stops]
  rfl

/-- One conjunction is read as a disjunction. -/
lemma disjunction (h : Reads 2 ts e) : Reads 1 ts e := by
  refine h.lift (d := 1) rfl fun {t ts fuel rest} opens stops base => ?_
  change Formula.conjunction (fuel + 1) _ = _ at base
  change Formula.disjunction (fuel + 2) _ = _
  rw [Formula.disjunction, base]
  simp only [Option.bind_eq_bind, Option.bind_some, disjuncts_of_stops stops]
  rfl

/-- A disjunction is read as an expression. -/
lemma expression (h : Reads 1 ts e) : Reads 0 ts e := by
  refine h.lift (d := 1) rfl fun {t ts fuel rest} opens stops base => ?_
  change Formula.disjunction (fuel + 1) _ = _ at base
  change Formula.expression (fuel + 2) _ = _
  have single : afterWord? "if" rest = none := by
    unfold afterWord?
    split
    case h_1 => exact if_neg fun same => absurd (stops _ rfl) (by rw [same]; decide)
    case h_2 => rfl
  rw [Formula.expression]
  · simp only [base, Option.bind_eq_bind, Option.bind_some, single, Option.bind_none]
    rfl
  · rintro _ ⟨⟩
    exact absurd opens (by decide)

/-- What is read on a level is read on every level below. -/
lemma mono {j k : Nat} (h : Reads k ts e) (tight : k ≤ 9) (le : j ≤ k) : Reads j ts e := by
  induction k, le using Nat.le_induction with
  | base => exact h
  | succ k le ih =>
    refine ih ?_ (by omega)
    have small : k < 9 := by omega
    interval_cases k
    · exact h.expression
    · exact h.disjunction
    · exact h.conjunction
    · exact h.inversion
    · exact h.comparison
    · exact h.sum
    · exact h.product
    · exact h.factor
    · exact h.power

/-- A value is read where no call follows. -/
lemma primary_of_atom {value : Checked} (stops : Stops atomLevel rest)
    (h : atom (fuel + 1) ts = some (value, rest)) :
    primary (fuel + 2) ts = some (value, rest) := by
  rw [primary, h]
  exact trailers_of_stops stops

/-- A number is read. -/
lemma number (l : Literal) : Reads 9 [.number (.real l)] (.literal l) where
  opens := ⟨_, _, rfl, Nat.le_refl _⟩
  reads fuel rest stops enough := by
    obtain ⟨fuel, rfl⟩ : ∃ f, fuel = f + 2 := ⟨fuel - 2, by simp [steps] at enough; omega⟩
    exact primary_of_atom stops (by rw [List.singleton_append, atom])

/-- A name is read. -/
lemma name (n : String) : Reads 9 [.name n] (.name n) where
  opens := ⟨_, _, rfl, Nat.le_refl _⟩
  reads fuel rest stops enough := by
    obtain ⟨fuel, rfl⟩ : ∃ f, fuel = f + 2 := ⟨fuel - 2, by simp [steps] at enough; omega⟩
    exact primary_of_atom stops (by rw [List.singleton_append, atom])

/-- An expression is read before what ends it. -/
lemma named_of_reads (h : Reads 0 ts e) (plain : Unassigned ts) (ends : Ends rest)
    (enough : 24 * ts.length ≤ fuel) : named (fuel + 1) (ts ++ rest) = some (.ok e, rest) := by
  obtain ⟨s, rest, rfl, ends⟩ := ends
  have stops : Stops 1 (.symbol s :: rest) := by
    rintro _ ⟨⟩
    rcases ends with rfl | rfl <;> decide
  have base := h.reads fuel _ stops enough
  obtain ⟨t, ts, rfl, opens⟩ := h.opens
  rw [List.cons_append] at base ⊢
  change Formula.expression fuel _ = _ at base
  rw [named]
  · rw [base]
    rcases ends with rfl | rfl
    · rfl
    · rfl
  · intro n rest' same
    obtain ⟨-, same⟩ := List.cons.inj same
    cases ts with
    | nil =>
      cases same
      rcases ends with same | same <;> cases same
    | cons t' ts =>
      cases same
      exact (plain _ (by simp)).2 rfl

/-- What is in parentheses is read as a value. -/
lemma parens (h : Reads 1 ts e) (plain : Unassigned ts) :
    Reads 9 (.symbol .openParen :: ts ++ [.symbol .closeParen]) e where
  opens := ⟨_, _, rfl, Nat.le_refl _⟩
  reads fuel rest stops enough := by
    rw [List.length_append, List.length_cons, List.length_singleton] at enough
    simp only [steps] at enough
    obtain ⟨fuel, rfl⟩ : ∃ f, fuel = f + 4 := ⟨fuel - 4, by omega⟩
    have inner := named_of_reads h.expression plain ⟨_, rest, rfl, .inr rfl⟩
      (show _ ≤ fuel by omega)
    obtain ⟨t, ts, rfl, opens⟩ := h.opens
    rw [List.append_assoc, List.cons_append, List.singleton_append]
    refine primary_of_atom stops ?_
    rw [atom, inParens]
    · rw [inner]
      rfl
    all_goals
      intro _ same
      obtain ⟨rfl, -⟩ := List.cons.inj same
      exact absurd opens (by decide)

/-- A negated condition is read where a negation may be. -/
lemma negation (h : Reads 3 ts e) : Reads 3 (.word "not" :: ts) (.unary .not e) where
  opens := ⟨_, _, rfl, Nat.le_refl _⟩
  reads fuel rest stops enough := by
    rw [List.length_cons] at enough
    simp only [steps] at enough
    obtain ⟨fuel, rfl⟩ : ∃ f, fuel = f + 1 := ⟨fuel - 1, by omega⟩
    have operand := h.reads fuel rest stops (by simp only [steps]; omega)
    change Formula.inversion fuel _ = _ at operand
    change Formula.inversion (fuel + 1) _ = _
    rw [List.cons_append, Formula.inversion, operand]
    rfl

/-- A factor with a sign before it is read as a factor. -/
lemma signed {op : Unary} (sign : op ≠ .not) (h : Reads 7 ts e) :
    Reads 7 (op.token :: ts) (.unary op e) where
  opens := by
    refine ⟨_, _, rfl, ?_⟩
    cases op with
    | not => exact absurd rfl sign
    | plus => exact Nat.le_refl _
    | minus => exact Nat.le_refl _
  reads fuel rest stops enough := by
    rw [List.length_cons] at enough
    simp only [steps] at enough
    obtain ⟨fuel, rfl⟩ : ∃ f, fuel = f + 1 := ⟨fuel - 1, by omega⟩
    have operand := h.reads fuel rest stops (by simp only [steps]; omega)
    change Formula.factor fuel _ = _ at operand
    change Formula.factor (fuel + 1) _ = _
    cases op with
    | not => exact absurd rfl sign
    | plus =>
      rw [List.cons_append, Unary.token, Formula.factor, operand]
      rfl
    | minus =>
      rw [List.cons_append, Unary.token, Formula.factor, operand]
      rfl

/-- A value with a factor as its exponent is read as a power. -/
lemma raised {ts' : List Token} {e' : Expr} (h : Reads 9 ts e) (h' : Reads 7 ts' e') :
    Reads 8 (ts ++ .symbol .power :: ts') (.arith .pow e e') := by
  obtain ⟨t, ts, rfl, opens⟩ := h.opens
  refine ⟨⟨t, _, rfl, (Nat.le_succ 8).trans opens⟩, fun fuel rest stops enough => ?_⟩
  simp only [steps, List.length_append, List.length_cons] at enough
  obtain ⟨fuel, rfl⟩ : ∃ f, fuel = f + 1 := ⟨fuel - 1, by omega⟩
  have base := h.reads fuel (.symbol .power :: (ts' ++ rest))
    (by rintro _ ⟨⟩; decide) (by simp only [steps, List.length_cons]; omega)
  have exponent := h'.reads fuel rest stops.seven (by simp only [steps]; omega)
  rw [List.append_assoc, List.cons_append, List.cons_append]
  change primary fuel _ = _ at base
  change Formula.factor fuel _ = _ at exponent
  change Formula.power (fuel + 1) _ = _
  rw [Formula.power]
  · rw [← List.cons_append, base]
    simp only [Option.bind_eq_bind, Option.bind_some, exponent]
    rfl
  · rintro _ ⟨⟩
    exact absurd (opens.trans (Token.opens_word _)) (by decide)

end Reads

end Inspection.Formula
