import Inspection.Proofs.Formula.Closing

/-!
# Texts in parentheses

A text that has tokens by itself has the same tokens in two pairs of parentheses, without the line
ends, if it has any there (`lex_enclosed`). What is left inside of brackets is never indented, and
lines end there without a token.
-/

namespace Inspection.Formula

variable {cs t : List Char}

lemma continued_append {rest : List Char} (found : continued? cs = some rest) (t : List Char) :
    continued? (cs ++ t) = some (rest ++ t) := by
  unfold continued? at found
  split at found
  · cases found
    rfl
  · cases found

/-! ## Tokens -/

section

variable {n m d : Nat} {fresh : Bool} {ts ts' : List Token}

/-- What is taken apart is taken apart alike with more fuel. -/
lemma lex_mono (read : lex n d fresh cs = some ts) (le : n ≤ m) : lex m d fresh cs = some ts := by
  induction n generalizing m d fresh cs ts with
  | zero => cases read
  | succ n ih =>
    obtain ⟨m, rfl⟩ : ∃ k, m = k + 1 := ⟨m - 1, by omega⟩
    have le : n ≤ m := by omega
    have mapped {d fresh cs} {k : Token} (read : (lex n d fresh cs).map (k :: ·) = some ts) :
        (lex m d fresh cs).map (k :: ·) = some ts := by
      obtain ⟨ts', read', rfl⟩ := Option.map_eq_some_iff.1 read
      rw [ih read' le]
      rfl
    cases fresh with
    | true =>
      rw [lex] at read ⊢
      split at read
      case h_1 => cases read
      case h_2 => exact ih read le
      case h_3 =>
        split_ifs at read ⊢
        · exact ih read le
        · exact ih read le
        · exact ih read le
    | false =>
      cases cs with
      | nil => exact read
      | cons c cs =>
        rw [lex] at read ⊢
        split_ifs at read ⊢ with space comment line shallow backslash
        · exact ih read le
        · exact ih read le
        · exact mapped read
        · exact ih read le
        · split at read
          case h_1 => exact ih read le
          case h_2 => cases read
        · split at read
          case h_1 => exact mapped read
          case h_2 =>
            split at read
            case h_1 => cases read
            case h_2 =>
              split_ifs at read ⊢
              all_goals exact mapped read

/-- The text is taken apart into the tokens, with some fuel. -/
def Lexed (d : Nat) (cs : List Char) (ts : List Token) : Prop :=
  ∃ fuel, lex fuel d false cs = some ts

namespace Lexed

/-- Inside brackets nothing is left over. -/
lemma not_nil : ¬ Lexed (d + 1) [] ts := by
  rintro ⟨_ | fuel, read⟩
  · cases read
  · rw [lex, if_neg (Nat.succ_ne_zero d)] at read
    cases read

lemma space_iff {c : Char} (space : isSpace c) : Lexed d (c :: cs) ts ↔ Lexed d cs ts := by
  constructor
  · rintro ⟨_ | fuel, read⟩
    · cases read
    · rw [lex, if_pos space] at read
      exact ⟨fuel, read⟩
  · rintro ⟨fuel, read⟩
    exact ⟨fuel + 1, by rw [lex, if_pos space, read]⟩

lemma continued_iff {rest : List Char} (found : continued? cs = some rest) :
    Lexed d ('\\' :: cs) ts ↔ Lexed d rest ts := by
  have step (fuel : Nat) : lex (fuel + 1) d false ('\\' :: cs) = lex fuel d false rest := by
    rw [lex, if_neg (by decide), if_neg (by decide), if_neg (by decide), if_pos rfl, found]
  constructor
  · rintro ⟨_ | fuel, read⟩
    · cases read
    · exact ⟨fuel, (step fuel).symm.trans read⟩
  · rintro ⟨fuel, read⟩
    exact ⟨fuel + 1, (step fuel).trans read⟩

/-- The indentation of a line holds no token. -/
lemma indentation_iff {fuel width fixed width' : Nat} {rest : List Char}
    (found : indentation fuel width fixed cs = some (width', rest)) (t : List Char) :
    Lexed d (cs ++ t) ts ↔ Lexed d (rest ++ t) ts := by
  induction fuel generalizing width fixed cs with
  | zero =>
    rw [indentation] at found
    · cases found
      rfl
    · simp
  | succ fuel ih =>
    cases cs with
    | nil =>
      rw [indentation] at found
      · cases found
        rfl
      · simp
    | cons c cs =>
      rw [indentation] at found
      by_cases gap : c = ' ' ∨ c = '\t'
      · rw [if_pos gap] at found
        rw [List.cons_append, space_iff (by rcases gap with rfl | rfl <;> rfl)]
        exact ih found
      rw [if_neg gap] at found
      by_cases feed : c = '\x0c'
      · rw [if_pos feed] at found
        rw [List.cons_append, space_iff (by rw [feed]; rfl)]
        exact ih found
      rw [if_neg feed] at found
      by_cases backslash : c = '\\'
      · rw [if_pos backslash] at found
        obtain ⟨cs', continued, found⟩ := Option.bind_eq_some_iff.1 found
        rw [List.cons_append, backslash, continued_iff (continued_append continued t)]
        exact ih found
      · rw [if_neg backslash] at found
        cases found
        rfl

lemma not_fresh_nil {fuel : Nat} : lex fuel (d + 1) true [] ≠ some ts := by
  intro read
  cases fuel with
  | zero => cases read
  | succ fuel =>
    rw [lex] at read
    exact not_nil ⟨fuel, read⟩

/-- It does not matter inside brackets whether a line starts. -/
lemma of_fresh {fuel : Nat} (read : lex fuel (d + 1) true cs = some ts) : Lexed (d + 1) cs ts := by
  cases fuel with
  | zero => cases read
  | succ fuel =>
    rw [lex] at read
    split at read
    case h_1 => cases read
    case h_2 => exact absurd ⟨fuel, read⟩ not_nil
    case h_3 width c rest found =>
      have same : Lexed (d + 1) (cs ++ []) ts ↔ Lexed (d + 1) (c :: rest ++ []) ts :=
        indentation_iff found []
      rw [List.append_nil, List.append_nil] at same
      rw [same]
      split_ifs at read with line comment
      · refine ⟨fuel + 1, ?_⟩
        rw [lex, if_neg (by rw [line]; decide), if_neg (by rw [line]; decide), if_pos line,
          if_neg (Nat.succ_ne_zero d), read]
      · cases after : rest.dropWhile (· ≠ '\n') with
        | nil =>
          rw [after] at read
          exact absurd read not_fresh_nil
        | cons c' more =>
          have head := List.head?_dropWhile_not (· ≠ '\n') rest
          rw [after, List.head?_cons] at head
          have broken : c' = '\n' := by simpa using head
          rw [after, broken] at read
          refine ⟨fuel + 2, ?_⟩
          rw [lex, if_neg (by rw [comment]; decide), if_pos comment, after, broken, lex,
            if_neg (by decide), if_neg (by decide), if_pos rfl, if_neg (Nat.succ_ne_zero d)]
          exact read
      · exact ⟨fuel, read⟩

lemma of_line (read : Lexed (d + 1) ('\n' :: cs) ts) : Lexed (d + 1) cs ts := by
  obtain ⟨_ | fuel, read⟩ := read
  · cases read
  · rw [lex, if_neg (by decide), if_neg (by decide), if_pos rfl, if_neg (Nat.succ_ne_zero d)]
      at read
    exact of_fresh read

lemma of_comment (read : Lexed d ('#' :: cs) ts) : Lexed d (cs.dropWhile (· ≠ '\n')) ts := by
  obtain ⟨_ | fuel, read⟩ := read
  · cases read
  · rw [lex, if_neg (by decide), if_pos rfl] at read
    exact ⟨fuel, read⟩

lemma of_token {c : Char} {rest : List Char} {k : Token}
    (starts : ¬ isSpace c ∧ c ≠ '#' ∧ c ≠ '\n' ∧ c ≠ '\\')
    (found : readToken (c :: cs) = some (k, rest)) (read : Lexed d (c :: cs) ts) :
    ∃ ts', ts = k :: ts' ∧ Lexed d rest ts' := by
  obtain ⟨space, comment, line, backslash⟩ := starts
  obtain ⟨_ | fuel, read⟩ := read
  · cases read
  · rw [lex, if_neg space, if_neg comment, if_neg line, if_neg backslash, found] at read
    obtain ⟨ts', read', rfl⟩ := Option.map_eq_some_iff.1 read
    exact ⟨ts', rfl, fuel, read'⟩

lemma of_symbol {c : Char} {rest : List Char} {s : Symbol}
    (starts : ¬ isSpace c ∧ c ≠ '#' ∧ c ≠ '\n' ∧ c ≠ '\\') (other : readToken (c :: cs) = none)
    (found : readSymbol (c :: cs) = some (s, rest)) (read : Lexed d (c :: cs) ts) :
    ∃ ts', ts = .symbol s :: ts' ∧ Lexed (s.depthAfter d) rest ts' := by
  obtain ⟨space, comment, line, backslash⟩ := starts
  obtain ⟨_ | fuel, read⟩ := read
  · cases read
  · rw [lex, if_neg space, if_neg comment, if_neg line, if_neg backslash, other] at read
    dsimp only at read
    rw [found] at read
    dsimp only at read
    split at read
    · cases read
    · obtain ⟨ts', read', rfl⟩ := Option.map_eq_some_iff.1 read
      exact ⟨ts', rfl, fuel, read'⟩

lemma eq_nil (read : Lexed 0 [] ts) : ts = [] := by
  obtain ⟨_ | fuel, read⟩ := read
  · cases read
  · cases read
    rfl

/-- A comment ends before parentheses that close the text. -/
lemma of_comment_closing (closing : Closing t) (read : Lexed (d + 1) ('#' :: (cs ++ t)) ts) :
    ∃ more, cs.dropWhile (· ≠ '\n') = '\n' :: more ∧ Lexed (d + 1) ('\n' :: (more ++ t)) ts := by
  have none : t.dropWhile (· ≠ '\n') = [] := by
    rw [List.dropWhile_eq_nil_iff]
    intro c mem
    rw [closing c mem]
    rfl
  have within := of_comment read
  rw [List.dropWhile_append, none] at within
  cases found : cs.dropWhile (· ≠ '\n') with
  | nil =>
    rw [found] at within
    exact absurd within not_nil
  | cons c more =>
    have head := List.head?_dropWhile_not (· ≠ '\n') cs
    rw [found, List.head?_cons] at head
    have broken : c = '\n' := by simpa using head
    rw [found, broken] at within
    exact ⟨more, by rw [broken], within⟩

/-- What closes both pairs of parentheses is left at the end. -/
lemma of_closing_two (read : Lexed 2 [')', ')'] ts) :
    ts = [.symbol .closeParen, .symbol .closeParen] := by
  obtain ⟨_, rfl, read'⟩ := read.of_symbol (by decide) rfl rfl
  obtain ⟨_, rfl, read''⟩ := read'.of_symbol (by decide) rfl rfl
  rw [read''.eq_nil]

end Lexed

/-- A symbol opens and closes brackets inside of others as it does by itself. -/
lemma Symbol.depthAfter_add {s : Symbol} (fits : s.closes → d ≠ 0) (k : Nat) :
    s.depthAfter (d + k) = s.depthAfter d + k := by
  rw [Symbol.depthAfter, Symbol.depthAfter]
  split_ifs with opens closes
  · omega
  · have := fits closes
    omega
  · rfl

/-- Line ends are not read as tokens. -/
lemma readToken_ne_line {k : Token} {rest : List Char} (found : readToken cs = some (k, rest)) :
    k ≠ .line := by
  rintro rfl
  have words : ∀ cs : List Char, readWord cs ≠ some (.line, rest) := by
    intro cs found
    unfold readWord at found
    dsimp only at found
    split at found
    · obtain ⟨⟨body, rest⟩, -, found⟩ := Option.bind_eq_some_iff.1 found
      obtain ⟨t, -, found⟩ := Option.bind_eq_some_iff.1 found
      cases found
    · split_ifs at found <;> cases found
  unfold readToken at found
  split at found
  · cases found
  · dsimp only at found
    split_ifs at found
    · obtain ⟨n, -, found⟩ := Option.map_eq_some_iff.1 found
      cases found
    · exact words _ found
    · obtain ⟨⟨body, rest⟩, -, found⟩ := Option.bind_eq_some_iff.1 found
      obtain ⟨t, -, found⟩ := Option.bind_eq_some_iff.1 found
      cases found

/-- The tokens of a text that is enclosed twice. -/
lemma lex_enclosed (alone : lex n d fresh cs = some ts)
    (within : Lexed (d + 2) (cs ++ [')', ')']) ts') :
    ts' = ts.filter (· ≠ .line) ++ [.symbol .closeParen, .symbol .closeParen] := by
  induction n generalizing d fresh cs ts ts' with
  | zero => cases alone
  | succ n ih =>
    cases fresh with
    | true =>
      rw [lex] at alone
      split at alone
      case h_1 => cases alone
      case h_2 width found =>
        rw [Lexed.indentation_iff found] at within
        exact ih alone within
      case h_3 width c rest found =>
        rw [Lexed.indentation_iff found] at within
        split_ifs at alone with line comment
        · rw [line] at within
          exact ih alone within.of_line
        · rw [comment] at within
          obtain ⟨more, found, within⟩ := within.of_comment_closing closing_two
          rw [found] at alone
          exact ih alone within.of_line
        · exact ih alone within
    | false =>
      cases cs with
      | nil =>
        rw [lex] at alone
        split_ifs at alone with outside
        cases alone
        rw [outside] at within
        exact within.of_closing_two
      | cons c cs =>
        rw [lex] at alone
        split_ifs at alone with space comment line shallow backslash
        · exact ih alone ((Lexed.space_iff space).1 within)
        · rw [comment] at within
          obtain ⟨more, found, within⟩ := within.of_comment_closing closing_two
          rw [found] at alone
          exact ih alone within
        · obtain ⟨ts, alone', rfl⟩ := Option.map_eq_some_iff.1 alone
          rw [line] at within
          rw [ih alone' within.of_line]
          rfl
        · rw [line] at within
          exact ih alone within.of_line
        · split at alone
          case h_1 rest found =>
            rw [backslash] at within
            exact ih alone ((Lexed.continued_iff (continued_append found _)).1 within)
          case h_2 => cases alone
        · have starts : ¬ isSpace c ∧ c ≠ '#' ∧ c ≠ '\n' ∧ c ≠ '\\' :=
            ⟨space, comment, line, backslash⟩
          have token := closing_two.readToken c cs
          split at alone
          case h_1 k rest found =>
            rw [found] at token
            obtain ⟨ts, alone', rfl⟩ := Option.map_eq_some_iff.1 alone
            obtain ⟨_, rfl, within'⟩ := within.of_token starts token
            rw [ih alone' within', List.filter_cons_of_pos (by simpa using readToken_ne_line found)]
            rfl
          case h_2 other =>
            rw [other] at token
            split at alone
            case h_1 => cases alone
            case h_2 s rest found =>
              split at alone
              case isTrue => cases alone
              case isFalse fits =>
                obtain ⟨ts, alone', rfl⟩ := Option.map_eq_some_iff.1 alone
                obtain ⟨_, rfl, within'⟩ :=
                  within.of_symbol starts token (closing_two.readSymbol found)
                simp only [Bool.or_eq_true, Bool.and_eq_true, decide_eq_true_eq, not_or,
                  not_and] at fits
                rw [Symbol.depthAfter_add fits.1] at within'
                rw [ih alone' within']
                rfl

end

end Inspection.Formula
