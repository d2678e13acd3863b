import Inspection.Proofs.Formula.Context
import Inspection.Proofs.Formula.Enclosing
import Inspection.Proofs.Formula.Halting

/-!
# Negations of formulas

The sign of a negation is respelled with a blank before it, so a text that starts with one starts
with an indentation, and is refused (`parse_first`). In parentheses the sign negates each formula,
since that is read as the operand of the negation as it is by itself (`parse_negation`).
-/

namespace Inspection.Formula

variable {cs : List Char} {ts rest tail : List Token} {e : Expr} {fuel d : Nat}

/-! ## Tokens -/

/-- The first line is not indented. -/
lemma tokens_indented (more : List Char) : tokens? (' ' :: 'n' :: more) = none := by
  have unified : unifyLines (' ' :: 'n' :: more) = ' ' :: 'n' :: unifyLines more := rfl
  rw [tokens?, unified, List.length_cons, List.length_cons, lex]
  rfl

lemma lex_opening (fits : d ≠ maxDepth) : lex (fuel + 1) d false ('(' :: cs) =
    (lex fuel (d + 1) false cs).map (.symbol .openParen :: ·) := by
  refine lex_symbol (by decide) (readToken_of_parted ?_) rfl ?_
  · rintro _ ⟨⟩
    decide
  · simpa [Symbol.opens, Symbol.closes] using fits

/-- A line that starts with a parenthesis is not indented. -/
lemma lex_fresh : lex (fuel + 1) d true ('(' :: cs) = lex fuel d false ('(' :: cs) := by
  rw [lex]
  have indent : indentation (('(' :: cs).length + 1) 0 0 ('(' :: cs) = some (0, '(' :: cs) := rfl
  rw [indent]
  dsimp only
  rw [if_neg (by decide), if_neg (by decide), if_neg (by simp)]

lemma lex_parens : lex (fuel + 3) 0 true ('(' :: '(' :: cs) =
    (lex fuel 2 false cs).map (.symbol .openParen :: .symbol .openParen :: ·) := by
  rw [lex_fresh, lex_opening (by decide), lex_opening (by decide), Option.map_map]
  rfl

lemma lex_negation : lex (fuel + 6) 0 true ('(' :: ' ' :: 'n' :: 'o' :: 't' :: ' ' :: '(' :: cs) =
    (lex fuel 2 false cs).map
      (.symbol .openParen :: .word "not" :: .symbol .openParen :: ·) := by
  have mark : Spelling.grammar.mark? (.unary .not) = some [' ', 'n', 'o', 't', ' '] := rfl
  rw [lex_fresh, lex_opening (by decide)]
  change (lex (fuel + 4) 1 false ([' ', 'n', 'o', 't', ' '] ++ '(' :: cs)).map _ = _
  rw [lex_word mark rfl, lex_opening (by decide), Option.map_map, Option.map_map]
  rfl

/-- If a text has tokens by itself and in two pairs of parentheses, it has the same tokens where the
inner pair is negated. -/
lemma tokens_negation (alone : tokens? cs = some ts)
    (enclosed : tokens? ('(' :: '(' :: (cs ++ [')', ')'])) ≠ none) :
    tokens? ('(' :: ' ' :: 'n' :: 'o' :: 't' :: ' ' :: '(' :: (cs ++ [')', ')'])) =
      some (.symbol .openParen :: .word "not" :: .symbol .openParen ::
        (ts.filter (· ≠ .line) ++ [.symbol .closeParen, .symbol .closeParen])) := by
  have unified := closing_two.unifyLines cs
  have outer : unifyLines ('(' :: '(' :: (cs ++ [')', ')'])) =
      '(' :: '(' :: (unifyLines cs ++ [')', ')']) := by
    rw [← unified]
    rfl
  have negated : unifyLines ('(' :: ' ' :: 'n' :: 'o' :: 't' :: ' ' :: '(' :: (cs ++ [')', ')'])) =
      '(' :: ' ' :: 'n' :: 'o' :: 't' :: ' ' :: '(' :: (unifyLines cs ++ [')', ')']) := by
    rw [← unified]
    rfl
  rw [tokens?] at alone enclosed ⊢
  rw [outer] at enclosed
  rw [negated]
  generalize unifyLines cs = text at *
  have few : 2 * ('(' :: '(' :: (text ++ [')', ')'])).length + 2 = 2 * text.length + 7 + 3 := by
    simp only [List.length_cons, List.length_append, List.length_nil]
    omega
  have more : 2 * ('(' :: ' ' :: 'n' :: 'o' :: 't' :: ' ' :: '(' :: (text ++ [')', ')'])).length +
      2 = 2 * text.length + 14 + 6 := by
    simp only [List.length_cons, List.length_append, List.length_nil]
    omega
  rw [few, lex_parens] at enclosed
  rw [more, lex_negation]
  cases within : lex (2 * text.length + 7) 2 false (text ++ [')', ')']) with
  | none =>
    rw [within] at enclosed
    exact absurd rfl enclosed
  | some ts' =>
    rw [lex_mono within (by omega), lex_enclosed alone ⟨_, within⟩]
    rfl

/-! ## Grammar -/

/-- What starts with a parenthesis is read as a condition if it is read as a value. -/
lemma inversion_of_atom (stops : Stops 1 rest)
    (h : atom (fuel + 1) (.symbol .openParen :: ts) = some (.ok e, rest)) :
    inversion (fuel + 12) (.symbol .openParen :: ts) = some (.ok e, rest) := by
  have tight : Stops 6 rest := stops.mono (by decide)
  have value := Reads.primary_of_atom (stops.mono (by decide)) h
  have power : power (fuel + 3) (.symbol .openParen :: ts) = some (.ok e, rest) := by
    rw [Formula.power, value]
    · simp only [Option.bind_eq_bind, Option.bind_some]
      split
      case h_1 => exact absurd (stops _ rfl) (by decide)
      case h_2 => rfl
    · simp
  have factor : factor (fuel + 4) (.symbol .openParen :: ts) = some (.ok e, rest) := by
    rw [Formula.factor]
    · exact power
    all_goals simp
  have product : binary (fuel + 6) 4 (.symbol .openParen :: ts) = some (.ok e, rest) := by
    refine Reads.binary_pass (by decide) tight (.inl rfl) ?_
    rw [binary, if_pos (by decide)]
    exact factor
  have sum := Reads.binary_pass (by decide) tight (.inr (stops.mono (by decide))) product
  have compared := Reads.operand (stops.mono (by decide)) sum
  rw [inversion, comparison, compared]
  · simp only [Option.bind_eq_bind, Option.bind_some,
      Reads.comparisons_of_stops (stops.mono (by decide))]
    rfl
  · simp

/-- A condition is read as an expression where nothing goes on with it. -/
lemma expression_of_inversion (stops : Stops 1 rest) (plain : ∀ us, ts ≠ .word "lambda" :: us)
    (h : inversion (fuel + 1) ts = some (.ok e, rest)) :
    expression (fuel + 4) ts = some (.ok e, rest) := by
  have single : afterWord? "if" rest = none := by
    unfold afterWord?
    split
    case h_1 => exact if_neg fun same => absurd (stops _ rfl) (by rw [same]; decide)
    case h_2 => rfl
  have conjunction : conjunction (fuel + 2) ts = some (.ok e, rest) := by
    rw [Formula.conjunction, h]
    simp only [Option.bind_eq_bind, Option.bind_some,
      Reads.conjuncts_of_stops (stops.mono (by decide))]
    rfl
  have disjunction : disjunction (fuel + 3) ts = some (.ok e, rest) := by
    rw [Formula.disjunction, conjunction]
    simp only [Option.bind_eq_bind, Option.bind_some, Reads.disjuncts_of_stops stops]
    rfl
  rw [expression]
  · simp only [disjunction, Option.bind_eq_bind, Option.bind_some, single, Option.bind_none]
    rfl
  · exact plain

/-- What an operand is read from is read as a value in parentheses. -/
lemma atom_of_named (h : named fuel ts = some (.ok e, .symbol .closeParen :: rest)) :
    atom (fuel + 2) (.symbol .openParen :: ts) = some (.ok e, rest) := by
  have operand {t : Token} (idle : t.idle) (us : List Token) : ts ≠ t :: us := by
    rintro rfl
    have bare : Bare (t :: us) := by
      rintro _ ⟨⟩
      exact idle
    rw [bare.named] at h
    cases h
  rw [atom, inParens, h]
  · rfl
  · exact operand rfl
  · exact fun us => operand rfl _
  · exact fun us => operand rfl _
  · exact operand rfl
  · exact operand rfl

lemma stops_closing (rest : List Token) : Stops 1 (.symbol .closeParen :: rest) := by
  rintro _ ⟨⟩
  decide

/-- The negation of a formula in parentheses is read where it stands in parentheses itself. -/
lemma checkedOfTokens_negation (read : checkedOfTokens? fuel ts = some (.ok e)) {more : Nat}
    (le : fuel + 35 ≤ more) :
    checkedOfTokens? more (.symbol .openParen :: .word "not" :: .symbol .openParen ::
      (ts.filter (· ≠ .line) ++ [.symbol .closeParen, .symbol .closeParen])) =
        some (.ok (.unary .not e)) := by
  obtain ⟨more, rfl⟩ : ∃ k, more = k + 35 := ⟨more - 35, by omega⟩
  have inner := named_closed read [.symbol .closeParen] (show fuel ≤ more by omega)
  generalize ts.filter (· ≠ .line) ++ [.symbol .closeParen, .symbol .closeParen] = own at *
  have condition := inversion_of_atom (stops_closing []) (atom_of_named inner)
  have negated : inversion (more + 15) (.word "not" :: .symbol .openParen :: own) =
      some (.ok (.unary .not e), [.symbol .closeParen]) := by
    rw [inversion, condition]
    rfl
  have other (us : List Token) : .word "not" :: .symbol .openParen :: own ≠ .word "lambda" :: us :=
    fun same => absurd (List.cons.inj same).1 (by decide)
  have outer : named (more + 19) (.word "not" :: .symbol .openParen :: own) =
      some (.ok (.unary .not e), [.symbol .closeParen]) := by
    rw [named, expression_of_inversion (stops_closing []) other negated]
    · rfl
    · simp
  have stops : Stops 1 [] := by simp [Stops]
  have whole := inversion_of_atom stops (atom_of_named outer)
  rw [checkedOfTokens?, expression_of_inversion stops (by simp) whole]
  rfl

/-! ## Texts -/

/-- What a text of a formula is made of. -/
lemma parse_eq_ok {text : String} (read : parse text = .ok e) :
    '\x00' ∉ respelled text.toList ∧ checked? (respelled text.toList) = some (.ok e) ∧
      e.depth ≤ maxNesting := by
  rw [parse] at read
  split_ifs at read with blank
  dsimp only at read
  split_ifs at read with null
  split at read
  case h_1 => cases read
  case h_2 => cases read
  case h_3 found =>
    split_ifs at read with deep
    cases read
    exact ⟨by simpa using null, found, Nat.le_of_not_lt deep⟩

/-- A negation that comes first is refused. -/
lemma parse_first {f : String} (plain : '\x00' ∉ f.toList) :
    parse ("!(" ++ f ++ ")") = .error .malformed := by
  have text : ("!(" ++ f ++ ")").toList = '!' :: '(' :: (f.toList ++ [')']) := by
    simp
  have null : '\x00' ∉ respelled ('!' :: '(' :: (f.toList ++ [')'])) := by
    rw [null_mem_respelled]
    simpa using plain
  obtain ⟨more, spelled⟩ := respelled_first f.toList
  rw [parse, text, if_neg]
  · dsimp only
    rw [if_neg (by simpa using null), spelled, checked?, tokens_indented]
    rfl
  · rw [List.all_cons]
    exact Bool.false_ne_true

/-- A formula in parentheses is negated in further ones. -/
lemma parse_negation {f : String} (alone : parse f = .ok e)
    (enclosed : parse ("((" ++ Text.trimmed f ++ "))") ≠ .error .malformed) :
    parse ("(!(" ++ Text.trimmed f ++ "))") =
      if maxNesting ≤ e.depth then .error (.unworkable .tooDeep) else .ok (.unary .not e) := by
  obtain ⟨null, read, -⟩ := parse_eq_ok alone
  obtain ⟨ts, tokens, read⟩ := Option.bind_eq_some_iff.1 read
  have outer : ("((" ++ Text.trimmed f ++ "))").toList =
      '(' :: '(' :: (Text.trim f.toList ++ [')', ')']) := by
    simp [Text.trimmed]
  have text : ("(!(" ++ Text.trimmed f ++ "))").toList =
      '(' :: '!' :: '(' :: (Text.trim f.toList ++ [')', ')']) := by
    simp [Text.trimmed]
  have room : tokens? ('(' :: '(' :: (respelled f.toList ++ [')', ')'])) ≠ none := by
    intro none
    refine enclosed ?_
    rw [parse, outer, if_neg, respelled_parens]
    · dsimp only
      rw [if_neg (by simpa using null), checked?, none]
      rfl
    · rw [List.all_cons]
      exact Bool.false_ne_true
  rw [parse, text, if_neg, respelled_negation]
  · dsimp only
    rw [if_neg (by simpa using null), checked?, tokens_negation tokens room]
    simp only [Option.bind_eq_bind, Option.bind_some]
    rw [checkedOfTokens_negation read]
    · exact ite_congr (by rw [Expr.depth, Nat.lt_succ_iff]) (fun _ => rfl) fun _ => rfl
    · simp only [List.length_cons, List.length_append, List.length_nil]
      omega
  · rw [List.all_cons]
    exact Bool.false_ne_true

/-! ## Negations -/

/-- The number of a negation: one if that of the operand is zero, or else zero. -/
def negation (x : Float) : Float :=
  if x == 0.0 then 1.0 else 0.0

/-- A condition holds unless its number is zero. -/
lemma holds_of_asNumber {v : Value} {role : Role} {x : Float} (number : v.asNumber role = .ok x) :
    v.holds = .ok (x != 0.0) := by
  cases v with
  | flag b =>
    cases number
    cases b <;> rfl
  | number y =>
    cases number
    rfl
  | array => cases number

/-- A negation computes a number wherever its operand does. -/
lemma Expr.number_not {functions : Functions} {bindings : Bindings} {x : Float}
    (computed : e.number functions bindings = .ok x) :
    (Expr.unary .not e).number functions bindings = .ok (negation x) := by
  obtain ⟨v, own, number⟩ := bind_eq_ok.1 computed
  rw [Expr.number, Expr.eval, own]
  change (Unary.not.apply v).bind _ = _
  rw [Unary.apply, holds_of_asNumber number, negation, bne]
  cases x == 0.0 <;> rfl

/-- No formula can be negated where the negation comes first: its text is refused, for the gap that
it is respelled with indents it. In parentheses every formula is negated that has room for two pairs
of them and does not nest too deep, and then computes the number of the negation. -/
theorem parse_negated {f : String} (read : parse f = .ok e) :
    parse ("!(" ++ f ++ ")") = .error .malformed ∧
    (parse ("((" ++ Text.trimmed f ++ "))") ≠ .error .malformed → e.depth < maxNesting →
      parse ("(!(" ++ Text.trimmed f ++ "))") = .ok (.unary .not e) ∧
      ∀ (functions : Functions) (bindings : Bindings) (x : Float),
        evaluate functions bindings f = .ok x →
          evaluate functions bindings ("(!(" ++ Text.trimmed f ++ "))") = .ok (negation x)) := by
  have plain : '\x00' ∉ f.toList := by
    rw [← null_mem_respelled]
    exact (parse_eq_ok read).1
  refine ⟨parse_first plain, fun enclosed shallow => ?_⟩
  have parsed : parse ("(!(" ++ Text.trimmed f ++ "))") = .ok (.unary .not e) := by
    rw [parse_negation read enclosed, if_neg (Nat.not_le_of_lt shallow)]
  refine ⟨parsed, fun functions bindings x computed => ?_⟩
  rw [evaluate, read] at computed
  rw [evaluate, parsed]
  exact Expr.number_not computed

/-- A width that is checked, with blanks around the formula. -/
def checkedWidth : String := " width > 2 && width < 3 "

/-- The check of a width can be negated in parentheses only. -/
theorem checkedWidth_negated :
    (∃ e, parse checkedWidth = .ok e ∧ e.depth < maxNesting) ∧
      parse ("((" ++ Text.trimmed checkedWidth ++ "))") ≠ .error .malformed ∧
      evaluate standard (fun _ => some (.float 3.5)) checkedWidth = .ok 0.0 ∧
      parse "!( width > 2 && width < 3 )" = .error .malformed ∧
      evaluate standard (fun _ => some (.float 3.5)) "(!(width > 2 && width < 3))" = .ok 1.0 := by
  have accepted : (parse checkedWidth).map Expr.depth = .ok 3 := by decide +kernel
  have enclosed : (parse ("((" ++ Text.trimmed checkedWidth ++ "))")).isOk := by decide +kernel
  have computed : evaluate standard (fun _ => some (.float 3.5)) checkedWidth = .ok 0.0 := by
    decide +kernel
  cases read : parse checkedWidth with
  | error cause =>
    rw [read] at accepted
    cases accepted
  | ok e =>
    rw [read] at accepted
    have shallow : e.depth < maxNesting := by
      rw [Except.ok.inj accepted]
      decide
    have room : parse ("((" ++ Text.trimmed checkedWidth ++ "))") ≠ .error .malformed := by
      intro malformed
      rw [malformed] at enclosed
      cases enclosed
    obtain ⟨first, inside⟩ := parse_negated read
    have value := (inside room shallow).2 standard _ _ computed
    exact ⟨⟨e, rfl, shallow⟩, room, computed, first, value⟩

/-- A formula without a comment need not have a negation: none does where it comes first. -/
theorem negation_may_fail :
    ¬∀ (f : String) (e : Expr), '#' ∉ f.toList → parse f = .ok e →
      (∃ e', parse ("!(" ++ f ++ ")") = .ok e') ∧
        ∀ (bindings : Bindings) (x : Float), evaluate standard bindings f = .ok x →
          evaluate standard bindings ("!(" ++ f ++ ")") = .ok (negation x) := by
  intro documented
  have accepted : (parse "x").isOk := by decide +kernel
  cases read : parse "x" with
  | error cause =>
    rw [read] at accepted
    cases accepted
  | ok e =>
    obtain ⟨⟨e', negated⟩, -⟩ := documented "x" e (by decide) read
    rw [parse_first (by decide)] at negated
    cases negated

end Inspection.Formula
