import Inspection.Proofs.Formula.Grammar
import Inspection.Proofs.Formula.Places

/-!
# Tokens of written formulas

The text of a formula in the spelling of the grammar is taken apart into the tokens of its pieces
(`Spelling.Writes.lex`).
-/

namespace Inspection.Formula

variable {x : Piece} {ps : List Piece} {p q : Place} {cs t : List Char} {s : Symbol}
  {fuel depth : Nat}

/-- No gap, comment or line end starts with the character. -/
def startsToken (c : Char) : Bool :=
  !isSpace c && c ≠ '#' && c ≠ '\n' && c ≠ '\\'

lemma startsToken_of_part {c : Char} (part : Text.isAsciiPart c) : startsToken c = true := by
  simp only [startsToken, isSpace, Bool.and_eq_true, Bool.not_eq_true', Bool.or_eq_false_iff,
    decide_eq_false_iff_not, decide_eq_true_eq]
  refine ⟨⟨⟨⟨⟨?_, ?_⟩, ?_⟩, ?_⟩, ?_⟩, ?_⟩ <;> (rintro rfl; exact absurd part (by decide))

/-- What is no punctuation is one token with those after it. -/
lemma lex_token {c : Char} {rest rest' : List Char} {k : Token} (starts : startsToken c)
    (read : readToken (c :: rest) = some (k, rest')) :
    lex (fuel + 1) depth false (c :: rest) = (lex fuel depth false rest').map (k :: ·) := by
  simp only [startsToken, Bool.and_eq_true, Bool.not_eq_true', decide_eq_true_eq] at starts
  obtain ⟨⟨⟨space, comment⟩, line⟩, backslash⟩ := starts
  rw [lex, if_neg (by rw [space]; decide), if_neg comment, if_neg line, if_neg backslash, read]

/-- How many brackets are open after a symbol. -/
def Symbol.depthAfter (s : Symbol) (depth : Nat) : Nat :=
  if s.opens then depth + 1 else if s.closes then depth - 1 else depth

/-- Punctuation is one token with those after it, if brackets can open and close. -/
lemma lex_symbol {c : Char} {rest rest' : List Char} (starts : startsToken c)
    (other : readToken (c :: rest) = none) (read : readSymbol (c :: rest) = some (s, rest'))
    (fits : (s.closes && depth = 0 || s.opens && depth = maxDepth) = false) :
    lex (fuel + 1) depth false (c :: rest) =
      (lex fuel (s.depthAfter depth) false rest').map (.symbol s :: ·) := by
  simp only [startsToken, Bool.and_eq_true, Bool.not_eq_true', decide_eq_true_eq] at starts
  obtain ⟨⟨⟨space, comment⟩, line⟩, backslash⟩ := starts
  rw [lex, if_neg (by rw [space]; decide), if_neg comment, if_neg line, if_neg backslash, other]
  dsimp only
  rw [read]
  dsimp only
  rw [if_neg (by rw [fits]; decide)]
  rfl

/-- What no word and no number starts with is punctuation. -/
lemma readToken_of_parted {c : Char} {rest : List Char} (parted : Parted (c :: rest)) :
    readToken (c :: rest) = none := by
  obtain ⟨plain, point, double, single⟩ := parted c rfl
  have digit := (parted.undigited c rfl).1
  simp only [readToken, digit, plain, double, single]
  cases rest with
  | nil => simp
  | cons d rest => simp [point]

/-! ## Symbols -/

/-- What stands before an operand starts with nothing else. -/
lemma ne_of_opensOperand (opens : ∀ c ∈ cs.head?, opensOperand c) {c : Char} {more : List Char}
    (other : opensOperand c = false) : cs ≠ c :: more := by
  rintro rfl
  rw [opens c rfl] at other
  cases other

/-- No symbol goes on with what stands before an operand. -/
lemma readSymbol_mark (mark : Spelling.grammar.mark? x = some t) (single : x.tokens = [.symbol s])
    (opens : x ≠ .closing → ∀ c ∈ cs.head?, opensOperand c) :
    readSymbol (t ++ cs) = some (s, cs) := by
  cases x with
  | name | number | choice => cases mark
  | connective op => cases single
  | unary op =>
    have next := opens nofun
    cases op with
    | not => cases single
    | plus | minus =>
      cases mark
      cases single
      rw [List.singleton_append, readSymbol]
      all_goals exact fun more => ne_of_opensOperand next (by decide)
  | arith op =>
    have next := opens nofun
    cases single
    cases op with
    | pow =>
      cases mark
      change readSymbol ('*' :: '*' :: cs) = _
      rw [readSymbol]
      · rfl
      · exact fun more => ne_of_opensOperand next (by decide)
    | add | sub | mul | div =>
      cases mark
      rw [List.singleton_append, readSymbol]
      · rfl
      all_goals exact fun more => ne_of_opensOperand next (by decide)
  | relation r =>
    have next := opens nofun
    cases single
    cases r with
    | eq | ne | le | ge => cases mark; rfl
    | lt | gt =>
      cases mark
      rw [Relation.mark, List.singleton_append, readSymbol]
      · rfl
      all_goals exact fun more => ne_of_opensOperand next (by decide)
  | opening | closing | comma =>
    cases mark
    cases single
    rfl

/-- The text of punctuation is its token with those after it. -/
lemma lex_mark (mark : Spelling.grammar.mark? x = some t) (single : x.tokens = [.symbol s])
    (opens : x ≠ .closing → ∀ c ∈ cs.head?, opensOperand c)
    (fits : (s.closes && depth = 0 || s.opens && depth = maxDepth) = false) :
    lex (fuel + 1) depth false (t ++ cs) =
      (lex fuel (s.depthAfter depth) false cs).map (.symbol s :: ·) := by
  have read := readSymbol_mark mark single opens
  have start : ∃ c more, t = c :: more ∧ startsToken c ∧
      looksLikeName c = false ∧ c ≠ '.' ∧ c ≠ '"' ∧ c ≠ '\'' := by
    cases x with
    | name | number | choice => cases mark
    | connective op => cases single
    | unary op =>
      cases op with
      | not => cases single
      | plus | minus => cases mark; exact ⟨_, _, rfl, by decide, by decide⟩
    | arith op | relation op =>
      cases op <;> cases mark <;> exact ⟨_, _, rfl, by decide, by decide⟩
    | opening | closing | comma => cases mark; exact ⟨_, _, rfl, by decide, by decide⟩
  obtain ⟨c, more, rfl, starts, plain⟩ := start
  refine lex_symbol starts (readToken_of_parted ?_) read fits
  rintro _ ⟨⟩
  exact plain

/-! ## Words and numbers -/

/-- A gap parts tokens. -/
lemma lex_gap : lex (fuel + 1) depth false (' ' :: cs) = lex fuel depth false cs := by
  rw [lex, if_pos (by decide)]

/-- A number is one token. -/
lemma lex_number {l : Literal} (spelled : l.Spelled t) (parted : Parted cs) :
    lex (fuel + 1) depth false (t ++ cs) =
      (lex fuel depth false cs).map (.number (.real l) :: ·) := by
  have read := spelled.readNumeral parted
  obtain ⟨c, more, rfl, digit⟩ := spelled.head
  rw [List.cons_append] at read ⊢
  refine lex_token (startsToken_of_part (isAsciiPart_of_isDigit digit)) ?_
  simp only [readToken, digit, Bool.true_or, if_true, read]
  rfl

/-- A name is read where no word goes on. -/
lemma readWord_name {n : String} (plain : PlainName n) (parted : Parted cs) :
    readWord (n.toList ++ cs) = some (.name n, cs) := by
  have chars : ∀ c ∈ n.toList, looksLikeName c :=
    fun c mem => looksLikeName_of_part (plain.chars.2 c mem)
  have word : (n.toList ++ cs).takeWhile looksLikeName = n.toList := by
    rw [List.takeWhile_append_of_pos chars]
    cases cs with
    | nil => rw [List.takeWhile_nil, List.append_nil]
    | cons c cs => rw [List.takeWhile_cons, (parted c rfl).1]; exact List.append_nil _
  have after : (n.toList ++ cs).dropWhile looksLikeName = cs := by
    rw [List.dropWhile_append_of_pos chars]
    cases cs with
    | nil => rfl
    | cons c cs => rw [List.dropWhile_cons, (parted c rfl).1]; rfl
  have free : reservedWords.contains n = false := by
    simpa using plain.free
  have whole : Text.isIdentifier n.toList = true := plain.identifier
  rw [readWord, word, after, String.ofList_toList, free, whole,
    Text.compatible_of_ascii plain.ascii, String.ofList_toList]
  cases cs with
  | nil => rfl
  | cons c cs =>
    obtain ⟨-, -, double, single⟩ := parted c rfl
    simp [double, single]

/-- No name starts with a digit. -/
lemma isDigit_of_start {c : Char} (start : Text.isAsciiStart c) : c.isDigit = false := by
  simp only [Text.isAsciiStart, Char.isAlpha, Char.isUpper, Char.isLower, Bool.or_eq_true,
    Bool.and_eq_true, decide_eq_true_eq, UInt32.le_iff_toNat_le, beq_iff_eq] at start
  change ((65 ≤ c.toNat ∧ c.toNat ≤ 90) ∨ (97 ≤ c.toNat ∧ c.toNat ≤ 122)) ∨ c = '_' at start
  rw [Bool.eq_false_iff]
  intro digit
  simp only [Char.isDigit, Bool.and_eq_true, decide_eq_true_eq, UInt32.le_iff_toNat_le] at digit
  change 48 ≤ c.toNat ∧ c.toNat ≤ 57 at digit
  rcases start with start | rfl
  · omega
  · exact absurd digit (by decide)

/-- A name is one token. -/
lemma lex_name {n : String} (plain : PlainName n) (parted : Parted cs) :
    lex (fuel + 1) depth false (n.toList ++ cs) =
      (lex fuel depth false cs).map (.name n :: ·) := by
  have read := readWord_name plain parted
  obtain ⟨⟨c, more, front, start⟩, chars⟩ := plain.chars
  have part : Text.isAsciiPart c := chars c (by simp [front])
  have point : c ≠ '.' := by
    rintro rfl
    exact absurd part (by decide)
  rw [front, List.cons_append] at read ⊢
  refine lex_token (startsToken_of_part part) ?_
  rw [readToken.eq_def]
  dsimp only
  rw [isDigit_of_start start, looksLikeName_of_part part, if_neg, if_pos rfl, read]
  cases more ++ cs <;> simp [point]

/-- A word of the language between gaps is one token. -/
lemma lex_word {w : String} (mark : Spelling.grammar.mark? x = some t)
    (single : x.tokens = [.word w]) :
    lex (fuel + 3) depth false (t ++ cs) = (lex fuel depth false cs).map (.word w :: ·) := by
  have word : ∃ c more, t = ' ' :: c :: more ++ [' '] ∧ startsToken c ∧
      readToken (c :: more ++ ' ' :: cs) = some (.word w, ' ' :: cs) := by
    cases x with
    | name | number | choice => cases single
    | arith op | relation op | opening | closing | comma => cases single
    | unary op =>
      cases op with
      | plus | minus => cases single
      | not => cases mark; cases single; exact ⟨'n', ['o', 't'], rfl, by decide, rfl⟩
    | connective op =>
      cases op with
      | and => cases mark; cases single; exact ⟨'a', ['n', 'd'], rfl, by decide, rfl⟩
      | or => cases mark; cases single; exact ⟨'o', ['r'], rfl, by decide, rfl⟩
  obtain ⟨c, more, rfl, starts, read⟩ := word
  rw [List.append_assoc, List.cons_append, lex_gap, List.singleton_append, List.cons_append]
  rw [List.cons_append] at read
  rw [lex_token starts read, lex_gap]

/-- The start of a conditional is a name and a parenthesis. -/
lemma lex_choice (fits : depth ≠ maxDepth) :
    lex (fuel + 2) depth false (choiceCallee.toList ++ ['('] ++ cs) =
      (lex fuel (depth + 1) false cs).map (Piece.choice.tokens ++ ·) := by
  have named : readToken ('_' :: (['_', 'i', 'f', '_', '_', '('] ++ cs)) =
      some (.name choiceCallee, '(' :: cs) := rfl
  have opened : lex (fuel + 1) depth false ('(' :: cs) =
      (lex fuel (depth + 1) false cs).map (.symbol .openParen :: ·) := by
    refine lex_symbol (by decide) (readToken_of_parted ?_) rfl ?_
    · rintro _ ⟨⟩
      decide
    · simpa [Symbol.opens, Symbol.closes] using fits
  change lex (fuel + 2) depth false ('_' :: (['_', 'i', 'f', '_', '_', '('] ++ cs)) = _
  rw [lex_token (by decide) named, opened, Option.map_map]
  rfl

/-! ## Formulas -/

lemma Piece.Moves.depth_eq (moves : x.Moves p q) : q.depth = x.depthAfter p.depth := by
  cases moves <;> rfl

/-- A symbol opens and closes parentheses as its piece does, and after all but a closing one an
operand is awaited. -/
lemma Piece.Moves.symbol (moves : x.Moves p q) (single : x.tokens = [.symbol s])
    (few : q.depth ≤ maxDepth) : s.depthAfter p.depth = q.depth ∧
      (s.closes && p.depth = 0 || s.opens && p.depth = maxDepth) = false ∧
        (x ≠ .closing → q.awaits = true) := by
  cases moves with
  | name | number | choice | connective | negation => cases single
  | @sign op =>
    cases op <;> cases single <;> exact ⟨rfl, rfl, fun _ => rfl⟩
  | @arith op => cases op <;> cases single <;> exact ⟨rfl, rfl, fun _ => rfl⟩
  | @relation r => cases r <;> cases single <;> exact ⟨rfl, rfl, fun _ => rfl⟩
  | comma => cases single; exact ⟨rfl, rfl, fun _ => rfl⟩
  | @opening d =>
    cases single
    have fits : d ≠ maxDepth := Nat.ne_of_lt few
    refine ⟨rfl, ?_, fun _ => rfl⟩
    simpa [Symbol.opens, Symbol.closes] using fits
  | closing =>
    cases single
    exact ⟨rfl, rfl, fun other => absurd rfl other⟩

lemma le_openAtOnce (d : Nat) (ps : List Piece) : d ≤ openAtOnce d ps := by
  cases ps with
  | nil => exact Nat.le_refl _
  | cons => exact Nat.le_max_left _ _

/-- A mark is a symbol or a word. -/
lemma tokens_of_mark (mark : Spelling.grammar.mark? x = some t) :
    (∃ s, x.tokens = [.symbol s]) ∨ ∃ w, x.tokens = [.word w] := by
  cases x with
  | name | number | choice => cases mark
  | unary op =>
    cases op with
    | not => exact .inr ⟨_, rfl⟩
    | plus | minus => exact .inl ⟨_, rfl⟩
  | connective => exact .inr ⟨_, rfl⟩
  | _ => exact .inl ⟨_, rfl⟩

/-- A mark has a text, that of a word gaps as well. -/
lemma length_of_mark (mark : Spelling.grammar.mark? x = some t) :
    1 ≤ t.length ∧
      ∀ w, x.tokens = [.word w] → 3 ≤ t.length ∧ ∀ d, x.depthAfter d = d := by
  cases x with
  | name | number | choice => cases mark
  | unary op =>
    cases op with
    | not => cases mark; exact ⟨by decide, fun _ _ => ⟨by decide, fun _ => rfl⟩⟩
    | plus | minus => cases mark; exact ⟨by decide, nofun⟩
  | connective op =>
    cases op <;> cases mark <;> exact ⟨by decide, fun _ _ => ⟨by decide, fun _ => rfl⟩⟩
  | arith op | relation op => cases op <;> cases mark <;> exact ⟨by decide, nofun⟩
  | opening | closing | comma => cases mark; exact ⟨by decide, nofun⟩

/-- A text with pieces is taken apart into their tokens. -/
lemma Spelling.Writes.lex (writes : grammar.Writes ps cs) (leads : Leads ps p ⟨0, false⟩)
    (few : openAtOnce p.depth ps ≤ maxDepth) (enough : cs.length < fuel) :
    lex fuel p.depth false cs = some (tokensOf ps) := by
  -- each piece takes at most as many steps as its text has characters, a word with its gaps three
  induction writes generalizing p fuel with
  | done =>
    cases leads
    obtain ⟨fuel, rfl⟩ : ∃ f, fuel = f + 1 := ⟨fuel - 1, by omega⟩
    rfl
  | gap _ ih =>
    rw [List.length_cons] at enough
    obtain ⟨fuel, rfl⟩ : ∃ f, fuel = f + 1 := ⟨fuel - 1, by omega⟩
    rw [lex_gap]
    exact ih leads few (by omega)
  | @piece x ps t cs spells writes ih =>
    cases leads with | @cons _ _ _ p' _ moves leads =>
    rw [openAtOnce, ← moves.depth_eq, Nat.max_le] at few
    rw [List.length_append] at enough
    have inside : p'.depth ≤ maxDepth := (le_openAtOnce _ ps).trans few.2
    cases spells with
    | name plain =>
      cases moves with
      | name =>
        obtain ⟨⟨c, more, front, -⟩, -⟩ := plain.chars
        rw [front, List.length_cons] at enough
        obtain ⟨fuel, rfl⟩ : ∃ f, fuel = f + 1 := ⟨fuel - 1, by omega⟩
        rw [lex_name plain (writes.parted leads rfl), ih leads few.2 (by omega)]
        rfl
    | number spelled =>
      cases moves with
      | number =>
        obtain ⟨c, more, front, -⟩ := spelled.head
        rw [front, List.length_cons] at enough
        obtain ⟨fuel, rfl⟩ : ∃ f, fuel = f + 1 := ⟨fuel - 1, by omega⟩
        rw [lex_number spelled (writes.parted leads rfl), ih leads few.2 (by omega)]
        rfl
    | choice other => exact absurd rfl other
    | callee =>
      cases moves with
      | @choice d =>
        obtain ⟨fuel, rfl⟩ : ∃ f, fuel = f + 2 := ⟨fuel - 2, by
          simp [choiceCallee] at enough
          omega⟩
        rw [lex_choice (Nat.ne_of_lt inside), ih leads few.2 (by
          simp [choiceCallee] at enough
          omega)]
        rfl
    | mark mark =>
      obtain ⟨some, words⟩ := length_of_mark mark
      rw [tokensOf, List.flatMap_cons]
      rcases tokens_of_mark mark with ⟨s, single⟩ | ⟨w, single⟩
      · obtain ⟨depth, fits, awaits⟩ := moves.symbol single inside
        obtain ⟨fuel, rfl⟩ : ∃ f, fuel = f + 1 := ⟨fuel - 1, by omega⟩
        rw [lex_mark mark single (fun other c mem =>
          (writes.opensOperand leads (awaits other) c mem).1) fits, depth,
          ih leads few.2 (by omega), single]
        rfl
      · obtain ⟨long, depth⟩ := words w single
        have same : p'.depth = p.depth := moves.depth_eq.trans (depth _)
        obtain ⟨fuel, rfl⟩ : ∃ f, fuel = f + 3 := ⟨fuel - 3, by omega⟩
        rw [lex_word mark single, ← same, ih leads few.2 (by omega), single]
        rfl

end Inspection.Formula
