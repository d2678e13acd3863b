import Inspection.Formula.Reader
import Inspection.Proofs.Formula.Lexing
import Inspection.Proofs.Formula.Operands
import Inspection.Proofs.Formula.Respelling

/-!
# Reading back written formulas

Every formula that can be written has a text, and is read back from each of its texts
(`Expr.Writable.parse_written`).
-/

namespace Inspection.Formula

variable {x : Piece} {ps : List Piece} {p q : Place} {cs t : List Char} {s : Spelling} {e : Expr}

/-- The text of a piece in the spelling of the grammar has at least one character for each token,
and no control characters. -/
lemma Spelling.Spells.text (spells : grammar.Spells x t) :
    x.tokens.length ≤ t.length ∧ ∀ c ∈ t, 32 ≤ c.toNat := by
  cases spells with
  | name plain =>
    obtain ⟨⟨c, more, front, -⟩, chars⟩ := plain.chars
    refine ⟨by rw [front]; exact Nat.succ_pos _, fun d mem => ?_⟩
    exact (show 32 ≤ 48 by decide).trans (part_bounds (chars d mem)).1
  | number spelled =>
    obtain ⟨c, more, front, -⟩ := spelled.head
    refine ⟨by rw [front]; exact Nat.succ_pos _, fun d mem => ?_⟩
    rcases spelled.chars d mem with digit | rfl | rfl | rfl | rfl
    · exact (show 32 ≤ 48 by decide).trans (part_bounds (isAsciiPart_of_digitOf digit)).1
    all_goals decide
  | choice other => exact absurd rfl other
  | callee =>
    have printable : (choiceCallee.toList ++ ['(']).all fun c => 32 ≤ c.toNat := by decide
    exact ⟨by decide, fun c mem => by simpa using List.all_eq_true.1 printable c mem⟩
  | mark mark =>
    have printable : x.tokens.length ≤ t.length ∧ t.all fun c => 32 ≤ c.toNat := by
      cases x with
      | name | number | choice => cases mark
      | unary op | arith op | relation op | connective op => cases op <;> cases mark <;> decide
      | opening | closing | comma => cases mark; decide
    exact ⟨printable.1, fun c mem => by simpa using List.all_eq_true.1 printable.2 c mem⟩

namespace Spelling.Writes

lemma text (writes : grammar.Writes ps cs) :
    (tokensOf ps).length ≤ cs.length ∧ ∀ c ∈ cs, 32 ≤ c.toNat := by
  induction writes with
  | done => exact ⟨Nat.le_refl _, nofun⟩
  | gap _ ih =>
    refine ⟨ih.1.trans (Nat.le_succ _), fun c mem => ?_⟩
    rcases List.mem_cons.1 mem with rfl | mem
    · decide
    · exact ih.2 c mem
  | piece spells _ ih =>
    obtain ⟨short, chars⟩ := spells.text
    rw [tokensOf_cons, List.length_append, List.length_append]
    refine ⟨Nat.add_le_add short ih.1, fun c mem => ?_⟩
    rcases List.mem_append.1 mem with mem | mem
    · exact chars c mem
    · exact ih.2 c mem

/-- Pieces that make an operand have a text. -/
lemma ne_nil {d : Nat} (writes : s.Writes ps cs) (leads : Leads ps ⟨d, true⟩ ⟨d, false⟩) :
    cs ≠ [] := by
  cases writes with
  | done => cases leads
  | gap => exact nofun
  | piece spells =>
    cases leads with | cons moves =>
    obtain ⟨c, more, rfl, -⟩ := spells.opensOperand moves rfl
    exact nofun

end Spelling.Writes

/-- Line ends of one kind stay as they are. -/
lemma unifyLines_of_printable (chars : ∀ c ∈ cs, 32 ≤ c.toNat) : unifyLines cs = cs := by
  induction cs with
  | nil => rfl
  | cons c cs ih =>
    have other : c ≠ '\r' := by
      rintro rfl
      exact absurd (chars _ (.head _)) (by decide)
    rw [unifyLines]
    · rw [ih fun d mem => chars d (.tail _ mem)]
    all_goals
      intros
      exact other ‹_›

/-- The tokens of a text that starts with no blank. -/
lemma Spelling.Writes.tokens (writes : grammar.Writes ps cs) (leads : Leads ps ⟨0, true⟩ ⟨0, false⟩)
    (few : openAtOnce 0 ps ≤ maxDepth) (start : cs.head? ≠ some ' ') :
    tokens? cs = some (tokensOf ps) := by
  obtain ⟨-, chars⟩ := writes.text
  have opens := writes.opensOperand leads rfl
  rw [tokens?, unifyLines_of_printable chars]
  cases cs with
  | nil => exact absurd rfl (writes.ne_nil leads)
  | cons c rest =>
    have opens := (opens c rfl).1
    have gap : c ≠ ' ' := fun same => start (by rw [same]; rfl)
    have line : ¬ (c = ' ' ∨ c = '\t') ∧ c ≠ '\x0c' ∧ c ≠ '\\' ∧ c ≠ '\n' ∧ c ≠ '#' := by
      refine ⟨?_, ?_, ?_, ?_, ?_⟩
      · rintro (rfl | rfl)
        · exact gap rfl
        · exact absurd opens (by decide)
      all_goals
        rintro rfl
        exact absurd opens (by decide)
    obtain ⟨blank, feed, backslash, newline, comment⟩ := line
    have indent : indentation ((c :: rest).length + 1) 0 0 (c :: rest) = some (0, c :: rest) := by
      rw [indentation, if_neg blank, if_neg feed, if_neg backslash]
      rfl
    rw [show 2 * (c :: rest).length + 2 = 2 * (c :: rest).length + 1 + 1 from rfl, Formula.lex,
      indent]
    dsimp only
    rw [if_neg newline, if_neg comment, if_neg (by simp)]
    exact writes.lex leads few (by omega)

/-- Every formula that can be written has a text, with spaces anywhere between its pieces, and each
text of it is read as the formula, unless it nests deeper than formulas may. -/
theorem Expr.Writable.parse_written (writable : e.Writable) (shallow : e.depth ≤ maxNesting)
    (few : openAtOnce 0 e.pieces ≤ maxDepth) :
    (∃ text : String, Spelling.formula.Writes e.pieces text.toList) ∧
      ∀ text : String, Spelling.formula.Writes e.pieces text.toList → parse text = .ok e := by
  have leads := writable.leads 0
  obtain ⟨cs, writes⟩ := leads.exists_writes
  refine ⟨⟨String.ofList cs, by rwa [String.toList_ofList]⟩, fun text writes => ?_⟩
  obtain ⟨spelled, start⟩ := writes.respelled leads
  obtain ⟨short, chars⟩ := spelled.text
  have solid : text.toList.all Text.isBlank = false := by
    rw [Bool.eq_false_iff]
    intro blank
    refine writes.trimLeft.ne_nil leads ?_
    rw [Text.trimLeft, List.dropWhile_eq_nil_iff]
    exact List.all_eq_true.1 blank
  have printable : (respelled text.toList).contains '\x00' = false := by
    rw [Bool.eq_false_iff, ne_eq, List.contains_iff_mem]
    exact fun mem => absurd (chars _ mem) (by decide)
  have checked : checked? (respelled text.toList) = some (.ok e) := by
    rw [checked?, spelled.tokens leads few start]
    exact writable.checkedOfTokens (by omega)
  rw [parse, solid, if_neg (by decide)]
  dsimp only
  rw [printable, if_neg (by decide), checked]
  exact if_neg (Nat.not_lt_of_le shallow)

/-- A conditional with all that has to be respelled or put in parentheses. -/
def guarded : Expr :=
  .call choiceName
    [.unary .not (.compare (.name "a") [(.lt, .literal (.integer 2))]),
      .unary .minus (.arith .pow (.name "x") (.unary .minus (.literal (.integer 3)))),
      .arith .sub (.name "b") (.arith .sub (.literal (.integer 0)) (.name "c"))]

namespace Guarded

lemma plain {n : String} (mem : n ∈ ["a", "b", "c", "x"]) : PlainName n := by
  simp only [List.mem_cons, List.not_mem_nil, or_false] at mem
  rcases mem with rfl | rfl | rfl | rfl <;> exact ⟨by simp, by decide, by decide, by decide⟩

lemma writable : guarded.Writable := by
  refine .call (.inl rfl) ?_
  simp only [List.forall_mem_cons]
  refine ⟨.unary (.compare (.name (plain (by decide))) nofun ?_),
    .unary (.arith (.name (plain (by decide))) (.unary .integer)),
    .arith (.name (plain (by decide))) (.arith .integer (.name (plain (by decide)))), nofun⟩
  simp only [List.forall_mem_singleton]
  exact .integer

lemma letter {n : String} {c : Char} (mem : n ∈ ["a", "b", "c", "x"]) (text : n.toList = [c]) :
    Spelling.formula.Spells (.name n) [c] := by
  rw [← text]
  exact .name (plain mem)

lemma digit {n : Nat} {c : Char} (text : Nat.toDigits 10 n = [c]) :
    Spelling.formula.Spells (.number (.integer n)) [c] := by
  rw [← text]
  exact .number (.decimal (by rw [Decimal.digitCount, text]; exact Nat.le_of_ble_eq_true rfl))

/-- A piece with a text of one character. -/
lemma single {c : Char} (spells : Spelling.formula.Spells x [c])
    (writes : Spelling.formula.Writes ps cs) : Spelling.formula.Writes (x :: ps) (c :: cs) :=
  .piece spells writes

open Spelling.Writes in
lemma writes :
    Spelling.formula.Writes guarded.pieces "if ((! a<2), -x^-3, b - (0 - c))".toList := by
  have text : "if ((! a<2), -x^-3, b - (0 - c))".toList = ['i', 'f', ' ', '(', '(', '!', ' ', 'a',
    '<', '2', ')', ',', ' ', '-', 'x', '^', '-', '3', ',', ' ', 'b', ' ', '-', ' ', '(', '0', ' ',
    '-', ' ', 'c', ')', ')'] := rfl
  have choice : Spelling.formula.Spells .choice ['i', 'f', ' ', '('] :=
    @Spelling.Spells.choice _ 1 nofun
  rw [text]
  refine Spelling.Writes.piece (t := ['i', 'f', ' ', '(']) choice ?_
  -- the condition
  refine single (.mark rfl) (single (.mark rfl) (gap (single (letter (by decide) rfl) ?_)))
  refine single (.mark rfl) (single (digit rfl) (single (.mark rfl) (single (.mark rfl) ?_)))
  -- the power
  refine gap (single (.mark rfl) (single (letter (by decide) rfl) (single (.mark rfl) ?_)))
  refine single (.mark rfl) (single (digit rfl) (single (.mark rfl) ?_))
  -- the difference
  refine gap (single (letter (by decide) rfl) (gap (single (.mark rfl) (gap ?_))))
  refine single (.mark rfl) (single (digit rfl) (gap (single (.mark rfl) (gap ?_))))
  exact single (letter (by decide) rfl) (single (.mark rfl) (single (.mark rfl) done))

end Guarded

/-- A conditional is read back from a text of it. -/
theorem parse_guarded : guarded.Writable ∧ guarded.depth ≤ maxNesting ∧
    openAtOnce 0 guarded.pieces ≤ maxDepth ∧
      parse "if ((! a<2), -x^-3, b - (0 - c))" = .ok guarded := by
  have shallow : guarded.depth ≤ maxNesting := by decide
  have few : openAtOnce 0 guarded.pieces ≤ maxDepth := by decide
  exact ⟨Guarded.writable, shallow, few,
    (Expr.Writable.parse_written Guarded.writable shallow few).2 _ Guarded.writes⟩

end Inspection.Formula
