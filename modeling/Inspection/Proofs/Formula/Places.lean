import Inspection.Proofs.Formula.Numerals

/-!
# Places in written formulas

A place between the pieces of a formula says how many parentheses are open and whether an operand is
awaited. The pieces of a formula lead from a place that awaits one to the same place after it
(`Expr.Writable.leads`), so they have a text (`Leads.exists_writes`), and at each place only certain
characters follow (`Spelling.Writes.opensOperand`, `Spelling.Writes.parted`).
-/

namespace Inspection.Formula

/-- A place between pieces: how many parentheses are open, and whether an operand is awaited. -/
structure Place where
  depth : Nat
  awaits : Bool

/-- A piece that has a text leads from one place to another. A negation stands in parentheses
only. -/
inductive Piece.Moves : Piece → Place → Place → Prop
  | name {n : String} {d : Nat} : PlainName n → Moves (.name n) ⟨d, true⟩ ⟨d, false⟩
  | number {l : Literal} {t : List Char} {d : Nat} :
    l.Spelled t →
    Moves (.number l) ⟨d, true⟩ ⟨d, false⟩
  | choice {d : Nat} : Moves .choice ⟨d, true⟩ ⟨d + 1, true⟩
  | sign {op : Unary} {d : Nat} : op ≠ .not → Moves (.unary op) ⟨d, true⟩ ⟨d, true⟩
  | negation {d : Nat} : Moves (.unary .not) ⟨d + 1, true⟩ ⟨d + 1, true⟩
  | arith {op : Arith} {d : Nat} : Moves (.arith op) ⟨d, false⟩ ⟨d, true⟩
  | relation {r : Relation} {d : Nat} : Moves (.relation r) ⟨d, false⟩ ⟨d, true⟩
  | connective {op : Connective} {d : Nat} : Moves (.connective op) ⟨d, false⟩ ⟨d, true⟩
  | comma {d : Nat} : Moves .comma ⟨d, false⟩ ⟨d, true⟩
  | opening {d : Nat} {b : Bool} : Moves .opening ⟨d, b⟩ ⟨d + 1, true⟩
  | closing {d : Nat} {b : Bool} : Moves .closing ⟨d + 1, b⟩ ⟨d, false⟩

/-- Pieces lead from one place to another. -/
inductive Leads : List Piece → Place → Place → Prop
  | nil {p : Place} : Leads [] p p
  | cons {x : Piece} {xs : List Piece} {p q r : Place} :
    x.Moves p q →
    Leads xs q r →
    Leads (x :: xs) p r

variable {x : Piece} {xs ys ps : List Piece} {p q r : Place} {cs t : List Char} {s : Spelling}

lemma Leads.append (first : Leads xs p q) (second : Leads ys q r) : Leads (xs ++ ys) p r := by
  induction first with
  | nil => exact second
  | cons moves _ ih => exact .cons moves (ih second)

/-- Pieces lead from a place that awaits an operand to the one after it. -/
def IsOperand (ps : List Piece) : Prop :=
  ∀ d, Leads ps ⟨d, true⟩ ⟨d, false⟩

/-- An operand in parentheses is one. -/
lemma IsOperand.parens (h : IsOperand ps) : IsOperand (.opening :: ps ++ [.closing]) :=
  fun d => .append (.cons .opening (h (d + 1))) (.cons .closing .nil)

lemma IsOperand.enclose {needed level : Nat} (h : IsOperand ps) :
    IsOperand (enclose needed level ps) := by
  rw [Formula.enclose]
  split_ifs
  · exact h.parens
  · exact h

/-- A piece stands between operands. -/
def Parts (x : Piece) : Prop :=
  ∀ d, x.Moves ⟨d, false⟩ ⟨d, true⟩

lemma leads_further {between : Piece} {needed : Nat} {es : List Expr} (parts : Parts between)
    (h : ∀ e ∈ es, IsOperand e.pieces) (d : Nat) :
    Leads (further between needed es) ⟨d, false⟩ ⟨d, false⟩ := by
  induction es with
  | nil => exact .nil
  | cons e es ih =>
    exact .append (.cons (parts d) ((h e (.head _)).enclose d))
      (ih fun e mem => h e (.tail _ mem))

lemma leads_listed {between : Piece} {needed : Nat} {es : List Expr} (some : es ≠ [])
    (parts : Parts between) (h : ∀ e ∈ es, IsOperand e.pieces) :
    IsOperand (listed between needed es) := by
  cases es with
  | nil => exact absurd rfl some
  | cons e es =>
    exact fun d => .append ((h e (.head _)).enclose d)
      (leads_further parts (fun e mem => h e (.tail _ mem)) d)

lemma leads_furtherRelated {rs : List (Relation × Expr)}
    (h : ∀ x ∈ rs, IsOperand x.2.pieces) (d : Nat) :
    Leads (furtherRelated rs) ⟨d, false⟩ ⟨d, false⟩ := by
  induction rs with
  | nil => exact .nil
  | cons x rs ih =>
    obtain ⟨r, e⟩ := x
    exact .append (.cons .relation ((h (r, e) (.head _)).enclose d))
      (ih fun x mem => h x (.tail _ mem))

/-- The start of a call opens a parenthesis. -/
lemma leads_callee {f : String} (named : f = choiceName ∨ PlainName f) (d : Nat) :
    Leads (callee f) ⟨d, true⟩ ⟨d + 1, true⟩ := by
  rw [callee]
  split_ifs with choice
  · exact .cons .choice .nil
  · exact .cons (.name (named.resolve_left choice)) (.cons .opening .nil)

/-- A finite number that is not negative can be spelled. -/
lemma exists_spelled {x : Float} (finite : x.isFinite)
    (plus : (Binary.ofFloat x).negative = false) : ∃ t, (Literal.float x).Spelled t := by
  obtain ⟨p, proper, -, value⟩ := NumberFormat.exists_stored_write finite
  rw [plus, if_neg (by decide)] at value
  obtain ⟨exponent, spelled⟩ : ∃ t, ExponentSpelled p.exponent t := by
    cases p.exponent with
    | none => exact ⟨_, .absent⟩
    | some x =>
      obtain ⟨negative, digits⟩ := x
      cases negative with
      | false => exact ⟨_, .present .bare⟩
      | true => exact ⟨_, .present .minus⟩
  rw [← value]
  exact ⟨_, .fraction proper spelled⟩

/-- A written formula is an operand. -/
lemma Expr.Writable.leads {e : Expr} (writable : e.Writable) : IsOperand e.pieces := by
  induction writable with
  | integer => exact fun d => .cons (.number .hexadecimal) .nil
  | float finite plus =>
    obtain ⟨t, spelled⟩ := exists_spelled finite plus
    exact fun d => .cons (.number spelled) .nil
  | name plain => exact fun d => .cons (.name plain) .nil
  | @unary op e _ ih =>
    cases op with
    | not =>
      exact fun d => .append (.cons .opening (.cons .negation (ih.enclose _)))
        (.cons .closing .nil)
    | plus => exact fun d => .cons (.sign nofun) (ih.enclose d)
    | minus => exact fun d => .cons (.sign nofun) (ih.enclose d)
  | arith _ _ ih ih' => exact fun d => .append (ih.enclose d) (.cons .arith (ih'.enclose d))
  | compare _ _ _ ih ih' => exact fun d => .append (ih.enclose d) (leads_furtherRelated ih' d)
  | connect several _ ih =>
    exact leads_listed (by rintro rfl; exact absurd several (by decide)) (fun d => .connective) ih
  | @call f args named _ ih =>
    intro d
    by_cases none : args = []
    · subst none
      exact .append (.append (leads_callee named d) .nil) (.cons .closing .nil)
    · exact .append (.append (leads_callee named d) (leads_listed none (fun d => .comma) ih _))
        (.cons .closing .nil)

/-! ## Texts of pieces -/

/-- A piece of a formula has a text. -/
lemma Piece.Moves.exists_spells (moves : x.Moves p q) : ∃ t, Spelling.formula.Spells x t := by
  cases moves with
  | name plain => exact ⟨_, .name plain⟩
  | number spelled => exact ⟨_, .number spelled⟩
  | choice => exact ⟨_, @Spelling.Spells.choice _ 0 nofun⟩
  | @sign op | @arith op | @connective op => cases op <;> exact ⟨_, .mark rfl⟩
  | _ => exact ⟨_, .mark rfl⟩

/-- Pieces that lead somewhere have a text. -/
lemma Leads.exists_writes (leads : Leads xs p q) : ∃ cs, Spelling.formula.Writes xs cs := by
  induction leads with
  | nil => exact ⟨[], .done⟩
  | cons moves _ ih =>
    obtain ⟨t, spells⟩ := moves.exists_spells
    obtain ⟨cs, writes⟩ := ih
    exact ⟨t ++ cs, .piece spells writes⟩

/-- The characters of a name in ASCII. -/
lemma PlainName.chars {n : String} (plain : PlainName n) :
    (∃ c cs, n.toList = c :: cs ∧ Text.isAsciiStart c) ∧ ∀ c ∈ n.toList, Text.isAsciiPart c := by
  obtain ⟨ascii, identifier, -, -⟩ := plain
  cases front : n.toList with
  | nil => rw [front] at identifier; cases identifier
  | cons c cs =>
    rw [front] at ascii identifier
    rw [Text.isIdentifier, Bool.and_eq_true, List.all_eq_true,
      Text.isIdentifierStart_of_ascii (ascii c (.head _))] at identifier
    refine ⟨⟨c, cs, rfl, identifier.1⟩, fun d mem => ?_⟩
    rcases List.mem_cons.1 mem with rfl | mem
    · have start := identifier.1
      rw [Text.isAsciiStart, Bool.or_eq_true] at start
      rw [Text.isAsciiPart, Char.isAlphanum, Bool.or_eq_true, Bool.or_eq_true]
      exact start.imp_left .inl
    · rw [← Text.isIdentifierPart_of_ascii (ascii d (.tail _ mem))]
      exact identifier.2 d mem

/-- What stands before an operand, in it, or instead of it may start with these. -/
def opensOperand (c : Char) : Bool :=
  looksLikeName c || c ∈ [' ', '!', '+', '-', '(', ')']

lemma opensOperand_of_part {c : Char} (part : Text.isAsciiPart c) : opensOperand c = true := by
  rw [opensOperand, looksLikeName_of_part part, Bool.true_or]

/-- Where an operand is awaited, the text of a piece starts with what stands before an operand, and
outside parentheses not with a negation. -/
lemma Spelling.Spells.opensOperand (spells : s.Spells x t) (moves : x.Moves p q)
    (awaits : p.awaits = true) :
    ∃ c cs, t = c :: cs ∧ opensOperand c ∧ (p.depth = 0 → c ≠ '!') := by
  cases spells with
  | name plain =>
    obtain ⟨⟨c, cs, front, start⟩, chars⟩ := plain.chars
    have part := chars c (by simp [front])
    refine ⟨c, cs, front, opensOperand_of_part part, ?_⟩
    rintro - rfl
    exact absurd part (by decide)
  | number spelled =>
    obtain ⟨c, cs, front, digit⟩ := spelled.head
    refine ⟨c, cs, front, opensOperand_of_part (isAsciiPart_of_isDigit digit), ?_⟩
    rintro - rfl
    exact absurd digit (by decide)
  | choice => exact ⟨'i', _, rfl, by decide, fun _ => by decide⟩
  | callee => exact ⟨'_', _, rfl, by decide, fun _ => by decide⟩
  | mark mark =>
    cases moves with
    | name | number | choice => cases mark
    | arith | relation | connective | comma => cases awaits
    | @sign op d other =>
      cases op with
      | not => exact absurd rfl other
      | plus => cases mark; exact ⟨'+', _, rfl, by decide, fun _ => by decide⟩
      | minus => cases mark; exact ⟨'-', _, rfl, by decide, fun _ => by decide⟩
    | negation =>
      cases mark
      split_ifs
      · exact ⟨'!', _, rfl, by decide, nofun⟩
      · exact ⟨' ', _, rfl, by decide, nofun⟩
    | opening => cases mark; exact ⟨'(', _, rfl, by decide, fun _ => by decide⟩
    | closing => cases mark; exact ⟨')', _, rfl, by decide, fun _ => by decide⟩

/-- Where no operand is awaited, no word goes on with the text of a piece. -/
lemma Spelling.Spells.parted (spells : s.Spells x t) (moves : x.Moves p q)
    (awaits : p.awaits = false) (rest : List Char) : Parted (t ++ rest) := by
  cases moves with
  | name | number | choice | sign | negation => cases awaits
  | @arith op =>
    cases spells with | mark mark =>
    cases op <;> cases s <;> cases mark <;> (rintro _ ⟨⟩; decide)
  | @relation op =>
    cases spells with | mark mark =>
    cases op <;> cases mark <;> (rintro _ ⟨⟩; decide)
  | @connective op =>
    cases spells with | mark mark =>
    cases op <;> cases s <;> cases mark <;> (rintro _ ⟨⟩; decide)
  | comma | opening | closing =>
    cases spells with | mark mark =>
    cases mark
    rintro _ ⟨⟩
    decide

namespace Spelling.Writes

/-- Where an operand is awaited, a text starts with what stands before an operand. -/
lemma opensOperand (writes : s.Writes ps cs) (leads : Leads ps p q) (awaits : p.awaits = true) :
    ∀ c ∈ cs.head?, opensOperand c ∧ (p.depth = 0 → c ≠ '!') := by
  cases writes with
  | done => exact nofun
  | gap =>
    rintro _ ⟨⟩
    exact ⟨by decide, fun _ => by decide⟩
  | piece spells =>
    cases leads with | cons moves =>
    obtain ⟨c, cs, rfl, opens⟩ := spells.opensOperand moves awaits
    rintro _ ⟨⟩
    exact opens

/-- Where no operand is awaited, no word goes on. -/
lemma parted (writes : s.Writes ps cs) (leads : Leads ps p q) (awaits : p.awaits = false) :
    Parted cs := by
  cases writes with
  | done => exact nofun
  | gap =>
    rintro _ ⟨⟩
    decide
  | piece spells =>
    cases leads with | cons moves => exact spells.parted moves awaits _

end Spelling.Writes

end Inspection.Formula
