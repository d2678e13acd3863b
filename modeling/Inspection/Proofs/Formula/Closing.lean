import Inspection.Proofs.Formula.Respelling
import Inspection.Proofs.Formula.RoundTrip

/-!
# Texts before closing parentheses

A formula in parentheses is respelled as it is by itself (`respelled_enclosed`), for none of the
operators that are respelled holds a parenthesis (`Closing.respellOperators`), and a conditional has
its own (`Closing.respellChoice`). A negation that comes first is respelled with a blank before it
(`respelled_first`).

A token that a text starts with is read alike where parentheses close the text: a numeral
(`Closing.readNumeral`), a quotation (`Closing.quotation`), a word (`Closing.readWord`) and a symbol
(`Closing.readSymbol`).
-/

namespace Inspection.Formula

variable {cs t : List Char}

/-- A conditional starts with its name, maybe blanks, and the parenthesis. -/
lemma afterChoice_eq_some {rest : List Char} (found : afterChoice? cs = some rest) :
    ∃ gap, (∀ c ∈ gap, Text.isBlank c) ∧ cs = 'i' :: 'f' :: (gap ++ '(' :: rest) := by
  unfold afterChoice? at found
  split at found
  case h_1 cs =>
    split at found
    case h_1 front =>
      cases found
      refine ⟨cs.takeWhile Text.isBlank, fun c mem => List.mem_takeWhile_imp mem, ?_⟩
      rw [← front, Text.trimLeft, List.takeWhile_append_dropWhile]
    case h_2 => cases found
  case h_2 => cases found

/-! ## Null characters -/

lemma mem_dropWhile_blank {c : Char} (solid : Text.isBlank c = false) (cs : List Char) :
    c ∈ cs.dropWhile Text.isBlank ↔ c ∈ cs := by
  conv_rhs => rw [← List.takeWhile_append_dropWhile (p := Text.isBlank) (l := cs), List.mem_append]
  rw [iff_or_self]
  intro mem
  rw [List.mem_takeWhile_imp mem] at solid
  cases solid

lemma null_mem_respellOperators (cs : List Char) : '\x00' ∈ respellOperators cs ↔ '\x00' ∈ cs := by
  induction cs using respellOperators.induct with
  | case1 => rfl
  | case2 cs ih | case3 cs ih | case4 cs ih | case5 cs ih => simp [respellOperators, ih]
  | case6 cs other ih =>
    rw [respellOperators]
    · simp [ih]
    · exact other
  | case7 c cs x1 x2 x3 x4 x5 ih =>
    rw [respellOperators, List.mem_cons, List.mem_cons, ih]
    all_goals assumption

lemma null_mem_respellChoice {fuel : Nat} {w : Bool} (enough : cs.length ≤ fuel) :
    '\x00' ∈ respellChoice fuel w cs ↔ '\x00' ∈ cs := by
  induction fuel generalizing w cs with
  | zero =>
    obtain rfl := List.length_eq_zero_iff.1 (Nat.le_zero.1 enough)
    rfl
  | succ fuel ih =>
    cases cs with
    | nil => rfl
    | cons c cs =>
      rw [List.length_cons] at enough
      rw [respellChoice]
      split
      case h_1 rest found =>
        split_ifs at found
        obtain ⟨gap, blank, front⟩ := afterChoice_eq_some found
        have length := congrArg List.length front
        simp only [List.length_cons, List.length_append] at length
        have outside : '\x00' ∉ gap := fun mem => absurd (blank _ mem) (by decide)
        have plain : '\x00' ∉ choiceCallee.toList := by decide
        rw [front]
        simp [ih (show rest.length ≤ fuel by omega), outside, plain]
      case h_2 =>
        rw [List.mem_cons, List.mem_cons, ih (by omega)]

/-- Respelling keeps null characters and adds none. -/
lemma null_mem_respelled (cs : List Char) : '\x00' ∈ respelled cs ↔ '\x00' ∈ cs := by
  rw [respelled, null_mem_respellChoice (Nat.le_refl _), null_mem_respellOperators, Text.trim,
    Text.trimRight, Text.trimLeft, List.mem_reverse, mem_dropWhile_blank rfl, List.mem_reverse,
    mem_dropWhile_blank rfl]

/-- Only closing parentheses. -/
def Closing (t : List Char) : Prop :=
  ∀ c ∈ t, c = ')'

namespace Closing

/-- Another character stands before the parentheses that close a text. -/
lemma head {c : Char} {more : List Char} (closing : Closing t) (other : c ≠ ')')
    (same : cs ++ t = c :: more) : ∃ cs', cs = c :: cs' ∧ more = cs' ++ t := by
  cases cs with
  | nil =>
    rw [List.nil_append] at same
    exact absurd (closing c (by rw [same]; exact .head _)) other
  | cons d cs =>
    obtain ⟨rfl, rfl⟩ := List.cons.inj same
    exact ⟨cs, rfl, rfl⟩

/-- Before parentheses that close it, a text does not start with a character that it does not start
with by itself. -/
lemma not_head {c : Char} (closing : Closing t) (other : c ≠ ')') (none : ∀ more, cs ≠ c :: more)
    (more : List Char) : cs ++ t ≠ c :: more := by
  intro same
  obtain ⟨more, front, -⟩ := closing.head other same
  exact none more front

lemma respellOperators (closing : Closing t) (cs : List Char) :
    respellOperators (cs ++ t) = respellOperators cs ++ t := by
  induction cs using Formula.respellOperators.induct with
  | case1 =>
    have plain := respellOperators_plain (t := t) (fun c mem => by
      rw [closing c mem]
      simp [StartsRespelled]) []
    rw [List.append_nil] at plain
    rw [List.nil_append, plain]
    exact List.append_nil t
  | case2 cs ih | case3 cs ih | case4 cs ih | case5 cs ih =>
    simp only [List.cons_append, Formula.respellOperators, ih]
    try rfl
  | case6 cs other ih =>
    rw [List.cons_append, Formula.respellOperators, Formula.respellOperators, ih,
      List.append_assoc]
    · exact other
    · intro more same
      obtain ⟨cs', front, -⟩ := closing.head (by decide) same
      exact other cs' front
  | case7 c cs power conjunction disjunction relation negation ih =>
    rw [List.cons_append, Formula.respellOperators, Formula.respellOperators, ih]
    · rfl
    all_goals
      first
      | assumption
      | intro more same front
        obtain ⟨more, front, -⟩ := closing.head (by decide) front
        first
        | exact conjunction more same front
        | exact disjunction more same front
        | exact relation more same front

lemma trimLeft (closing : Closing t) (cs : List Char) :
    Text.trimLeft (cs ++ t) = Text.trimLeft cs ++ t := by
  have whole : t.dropWhile Text.isBlank = t := by
    cases t with
    | nil => rfl
    | cons c t =>
      rw [closing c (.head _)]
      rfl
  rw [Text.trimLeft, Text.trimLeft, List.dropWhile_append, whole]
  split_ifs with none
  · rw [List.isEmpty_iff.1 none, List.nil_append]
  · rfl

lemma afterChoice (closing : Closing t) (cs : List Char) :
    afterChoice? (cs ++ t) = (afterChoice? cs).map (· ++ t) := by
  by_cases choice : ∃ rest, cs = 'i' :: 'f' :: rest
  · obtain ⟨rest, rfl⟩ := choice
    rw [List.cons_append, List.cons_append, afterChoice?, afterChoice?, closing.trimLeft]
    split
    case h_1 inner same =>
      obtain ⟨inner, front, rfl⟩ := closing.head (by decide) same
      rw [front]
      rfl
    case h_2 other =>
      split
      case h_1 inner same => exact absurd (by rw [same]; rfl) (other (inner ++ t))
      case h_2 => rfl
  · have none : ∀ rest, cs ++ t ≠ 'i' :: 'f' :: rest := by
      intro rest same
      obtain ⟨rest', rfl, tail⟩ := closing.head (by decide) same
      obtain ⟨rest', rfl, -⟩ := closing.head (by decide) tail.symm
      exact choice ⟨rest', rfl⟩
    rw [afterChoice?, afterChoice?]
    · rfl
    · exact fun rest same => choice ⟨rest, same⟩
    · exact none

lemma respellChoice_self (closing : Closing t) {n : Nat} (w : Bool) (enough : t.length ≤ n) :
    respellChoice n w t = t := by
  obtain ⟨n, rfl⟩ : ∃ k, n = k + t.length := ⟨n - t.length, by omega⟩
  have plain := respellChoice_plain n w (t := t) (fun mem => absurd (closing _ mem) (by decide)) []
  rw [List.append_nil] at plain
  rw [plain]
  cases n <;> exact List.append_nil t

lemma respellChoice (closing : Closing t) {m n : Nat} (w : Bool) (enough : cs.length ≤ m)
    (enough' : (cs ++ t).length ≤ n) :
    respellChoice n w (cs ++ t) = respellChoice m w cs ++ t := by
  induction m generalizing n w cs with
  | zero =>
    obtain rfl := List.length_eq_zero_iff.1 (Nat.le_zero.1 enough)
    exact closing.respellChoice_self w enough'
  | succ m ih =>
    cases cs with
    | nil => exact closing.respellChoice_self w enough'
    | cons c cs =>
      rw [List.length_append, List.length_cons] at enough'
      rw [List.length_cons] at enough
      obtain ⟨n, rfl⟩ : ∃ k, n = k + 1 := ⟨n - 1, by omega⟩
      have same : (if w then none else afterChoice? (c :: cs ++ t)) =
          (if w then none else afterChoice? (c :: cs)).map (· ++ t) := by
        rw [closing.afterChoice]
        split_ifs <;> rfl
      rw [List.cons_append] at same ⊢
      rw [Formula.respellChoice, Formula.respellChoice, same]
      cases found : (if w then none else afterChoice? (c :: cs)) with
      | none =>
        dsimp only [Option.map_none]
        rw [ih _ (by omega) (by rw [List.length_append]; omega)]
        rfl
      | some rest =>
        have shorter : rest.length ≤ cs.length := by
          split_ifs at found
          obtain ⟨gap, -, front⟩ := afterChoice_eq_some found
          have length := congrArg List.length front
          simp only [List.length_cons, List.length_append] at length
          omega
        dsimp only [Option.map_some]
        rw [ih _ (by omega) (by rw [List.length_append]; omega)]
        simp

end Closing

lemma closing_two : Closing [')', ')'] := by
  rintro c (_ | ⟨_, _ | ⟨_, ⟨⟩⟩⟩) <;> rfl

/-- Nothing is cut off a text between two characters that are no blanks. -/
lemma trim_between {c d : Char} (first : Text.isBlank c = false) (last : Text.isBlank d = false)
    (cs : List Char) : Text.trim (c :: (cs ++ [d])) = c :: (cs ++ [d]) := by
  rw [Text.trim, Text.trimLeft_cons_of_not_blank first, Text.trimRight, List.reverse_cons,
    List.reverse_append, List.reverse_singleton, List.singleton_append, List.cons_append,
    List.dropWhile_cons, if_neg (by rw [last]; decide)]
  simp

/-- A formula in parentheses is respelled as it is by itself, and so is what stands before it. -/
lemma respelled_enclosed (front front' : List Char) (closing : Closing t)
    (whole : Text.trim (front ++ (Text.trim cs ++ t)) = front ++ (Text.trim cs ++ t))
    (operators : ∀ cs, respellOperators (front ++ cs) = front' ++ respellOperators cs)
    (plain : 'i' ∉ front') (apart : inWordAfter false front' = false) :
    respelled (front ++ (Text.trim cs ++ t)) = front' ++ (respelled cs ++ t) := by
  rw [respelled, respelled, whole, operators, closing.respellOperators, List.length_append,
    Nat.add_comm, respellChoice_plain _ _ plain, apart]
  exact congrArg _ (closing.respellChoice false (Nat.le_refl _) (Nat.le_refl _))

lemma respelled_parens (cs : List Char) :
    respelled ('(' :: '(' :: (Text.trim cs ++ [')', ')'])) =
      '(' :: '(' :: (respelled cs ++ [')', ')']) :=
  have whole := trim_between (c := '(') (d := ')') rfl rfl ('(' :: (Text.trim cs ++ [')']))
  respelled_enclosed ['(', '('] ['(', '('] closing_two (by simpa using whole) (fun _ => rfl)
    (by decide) rfl

lemma respelled_negation (cs : List Char) :
    respelled ('(' :: '!' :: '(' :: (Text.trim cs ++ [')', ')'])) =
      '(' :: ' ' :: 'n' :: 'o' :: 't' :: ' ' :: '(' :: (respelled cs ++ [')', ')']) :=
  have whole := trim_between (c := '(') (d := ')') rfl rfl ('!' :: '(' :: (Text.trim cs ++ [')']))
  respelled_enclosed ['(', '!', '('] ['(', ' ', 'n', 'o', 't', ' ', '('] closing_two
    (by simpa using whole) (fun _ => rfl) (by decide) rfl

/-- A negation that comes first is respelled with a blank before it. -/
lemma respelled_first (cs : List Char) :
    ∃ more, respelled ('!' :: '(' :: (cs ++ [')'])) = ' ' :: 'n' :: more := by
  have whole := trim_between (c := '!') (d := ')') rfl rfl ('(' :: cs)
  have operators : ∀ cs, respellOperators ('!' :: '(' :: cs) =
      [' ', 'n', 'o', 't', ' ', '('] ++ respellOperators cs := fun _ => rfl
  rw [List.cons_append] at whole
  rw [respelled, whole, operators, List.length_append, Nat.add_comm,
    respellChoice_plain _ _ (by decide)]
  exact ⟨_, rfl⟩

namespace Closing

open Decimal

lemma parted (closing : Closing t) : Parted t := by
  intro c mem
  rw [closing c (List.mem_of_mem_head? mem)]
  decide

/-- A parenthesis is no digit, whatever the base. -/
lemma digitOf_head (closing : Closing t) {c : Char} (mem : c ∈ t) : digitOf c = 16 := by
  rw [closing c mem]
  rfl

/-! ## Numerals -/

lemma baseDigits (closing : Closing t) {base : Nat} (small : base ≤ 16) (cs : List Char) :
    baseDigits base (cs ++ t) =
      ((Formula.baseDigits base cs).1, (Formula.baseDigits base cs).2 ++ t) := by
  induction cs using Formula.baseDigits.induct base with
  | case1 c cs digit ds rest found ih =>
    simp only [List.cons_append, Formula.baseDigits, if_pos digit, ih]
  | case2 c cs other =>
    simp only [List.cons_append, Formula.baseDigits, if_neg other]
  | case3 c cs _ digit ds rest found ih =>
    have plain : c ≠ '_' := by
      rintro rfl
      exact absurd (digit.trans_le small) (by decide)
    rw [List.cons_append, Formula.baseDigits, Formula.baseDigits, if_pos digit, if_pos digit, ih]
    all_goals exact fun _ _ same => absurd same plain
  | case4 c cs plain other =>
    have own : Formula.baseDigits base (c :: cs) = ([], c :: cs) := by
      rw [Formula.baseDigits, if_neg other]
      exact plain
    rw [own, List.cons_append, Formula.baseDigits.eq_def]
    split
    case h_1 d more same =>
      obtain ⟨rfl, tail⟩ := List.cons.inj same
      have none : ¬ digitOf d < base := by
        cases cs with
        | nil =>
          rw [List.nil_append] at tail
          rw [closing.digitOf_head (by rw [tail]; exact .head _)]
          omega
        | cons => exact absurd rfl (plain _ _ rfl)
      rw [if_neg none, tail]
    case h_2 same =>
      obtain ⟨rfl, rfl⟩ := List.cons.inj same
      rw [if_neg other]
    case h_3 same => cases same
  | case5 =>
    rw [List.nil_append, Formula.baseDigits.eq_def]
    split
    case h_1 => exact absurd (closing '_' (.head _)) (by decide)
    case h_2 c cs _ =>
      rw [if_neg (by rw [closing.digitOf_head (.head _)]; omega)]
      rfl
    case h_3 => rfl

lemma digitPart (closing : Closing t) (cs : List Char) :
    digitPart (cs ++ t) = ((Decimal.digitPart cs).1, (Decimal.digitPart cs).2 ++ t) := by
  have none {c : Char} (other : ¬ c.isDigit) (more : List Char) :
      Decimal.digitPart (c :: more) = ([], c :: more) := by
    rw [Decimal.digitPart.eq_def]
    split <;> simp_all
  induction cs using Decimal.digitPart.induct with
  | case1 => exact digitPart_append nofun closing.parted.undigited
  | case2 c d cs digits ds after found ih =>
    rw [List.cons_append] at ih
    simp only [List.cons_append, Decimal.digitPart, if_pos digits, ih]
  | case3 c d cs other digit =>
    simp only [List.cons_append, Decimal.digitPart, if_neg other, if_pos digit]
  | case4 c d cs _ other =>
    simp only [List.cons_append, none other]
  | case5 c cs plain digit ds after found ih =>
    by_cases last : cs = ['_']
    -- an underscore at the end is left there, as it is before a parenthesis
    · rw [last]
      cases t with
      | nil => simp
      | cons d t =>
        rw [closing d (.head _)]
        simp [Decimal.digitPart, digit]
    · rw [List.cons_append, Decimal.digitPart, Decimal.digitPart, if_pos digit, if_pos digit, ih]
      · exact plain
      · intro d more same
        obtain ⟨cs', rfl, tail⟩ := closing.head (by decide) same
        cases cs' with
        | nil => exact last rfl
        | cons d' cs' => exact plain d' cs' rfl
  | case6 c cs plain other =>
    simp only [List.cons_append, none other]

lemma signPart (closing : Closing t) (cs : List Char) :
    signPart (cs ++ t) = ((Decimal.signPart cs).1, (Decimal.signPart cs).2 ++ t) := by
  have none {c : Char} (other : c ≠ '-' ∧ c ≠ '+') (more : List Char) :
      Decimal.signPart (c :: more) = (false, c :: more) := by
    unfold Decimal.signPart
    split <;> simp_all
  cases cs with
  | nil =>
    cases t with
    | nil => rfl
    | cons c t =>
      rw [closing c (.head _)]
      rfl
  | cons c cs =>
    by_cases minus : c = '-'
    · rw [minus]
      rfl
    by_cases plus : c = '+'
    · rw [plus]
      rfl
    · simp only [List.cons_append, none ⟨minus, plus⟩]

/-- What is read at the start of a text, where the parentheses `t` close the text. -/
def after {α : Type} (t : List Char) (read : α × List Char) : α × List Char :=
  (read.1, read.2 ++ t)

lemma readExponent (closing : Closing t) (cs : List Char) :
    readExponent (cs ++ t) = (readExponent cs).map (after t) := by
  cases cs with
  | nil =>
    rw [List.nil_append]
    cases t with
    | nil => rfl
    | cons c t =>
      rw [closing c (.head _)]
      rfl
  | cons c cs =>
    rw [List.cons_append]
    unfold Formula.readExponent
    simp only [closing.signPart, closing.digitPart]
    by_cases exponent : c = 'e' ∨ c = 'E'
    · rw [if_pos exponent, if_pos exponent]
      obtain ⟨ds, more⟩ := Decimal.digitPart (Decimal.signPart cs).2
      split
      case h_1 same same' =>
        obtain ⟨cs, rfl, -⟩ := closing.head (by decide) same
        simp_all
      case h_2 same same' =>
        obtain ⟨cs, rfl, -⟩ := closing.head (by decide) same
        simp_all
      case h_3 => split <;> simp_all [after]
      case h_4 => split <;> simp_all [after]
    · rw [if_neg exponent, if_neg exponent]
      rfl

lemma isPrefixOf (closing : Closing t) {w : List Char} (plain : ')' ∉ w) (cs : List Char) :
    w.isPrefixOf (cs ++ t) = w.isPrefixOf cs := by
  induction w generalizing cs with
  | nil => simp
  | cons d w ih =>
    cases cs with
    | nil =>
      cases t with
      | nil => rfl
      | cons c t =>
        have other : d ≠ ')' := fun same => plain (by rw [same]; exact .head _)
        rw [closing c (.head _), List.nil_append, List.isPrefixOf_cons_cons, beq_false_of_ne other]
        rfl
    | cons c cs =>
      rw [List.cons_append, List.isPrefixOf_cons_cons, List.isPrefixOf_cons_cons,
        ih (fun mem => plain (.tail _ mem))]

lemma endsNumber (closing : Closing t) (cs : List Char) : endsNumber (cs ++ t) = endsNumber cs := by
  cases cs with
  | nil => exact closing.parted.endsNumber
  | cons c cs =>
    have plain : ∀ w ∈ wordsAfterNumber, ')' ∉ w := by decide
    rw [List.cons_append, Formula.endsNumber, Formula.endsNumber, ← List.cons_append]
    congr 1
    rw [Bool.eq_iff_iff, List.any_eq_true, List.any_eq_true]
    exact exists_congr fun w => and_congr_right fun mem => by rw [closing.isPrefixOf (plain w mem)]

lemma readDecimal (closing : Closing t) (cs : List Char) :
    readDecimal (cs ++ t) = (readDecimal cs).map (after t) := by
  unfold Formula.readDecimal
  simp only [closing.digitPart]
  obtain ⟨whole, rest⟩ := Decimal.digitPart cs
  by_cases point : ∃ fraction, rest = '.' :: fraction
  case' pos =>
    obtain ⟨fraction, rfl⟩ := point
    simp only [List.cons_append, closing.digitPart, closing.readExponent]
    cases Formula.readExponent (Decimal.digitPart fraction).2 with
    | none => rfl
    | some read => ?_
  case' neg =>
    have within := closing.not_head (by decide) (not_exists.1 point)
    simp only [not_exists.1 point, imp_self, implies_true, closing.readExponent]
    cases Formula.readExponent rest with
    | none => rfl
    | some read => ?_
  all_goals
    obtain ⟨e, rest⟩ := read
    simp only [Option.map_some, Option.bind_eq_bind, Option.bind_some, after]
    by_cases lower : ∃ more, rest = 'j' :: more
    · obtain ⟨more, rfl⟩ := lower
      simp only [List.cons_append, closing.endsNumber]
      split_ifs <;> rfl
    by_cases upper : ∃ more, rest = 'J' :: more
    · obtain ⟨more, rfl⟩ := upper
      simp only [List.cons_append, closing.endsNumber]
      split_ifs <;> rfl
    · have own := closing.not_head (by decide) (not_exists.1 lower)
      have own' := closing.not_head (by decide) (not_exists.1 upper)
      simp only [not_exists.1 lower, not_exists.1 upper, imp_self, implies_true,
        closing.endsNumber]
      split_ifs <;> rfl

lemma readNumeral (closing : Closing t) (cs : List Char) :
    readNumeral (cs ++ t) = (readNumeral cs).map (after t) := by
  have small {c : Char} {base : Nat} (found : baseOf? c = some base) : base ≤ 16 := by
    unfold baseOf? at found
    split_ifs at found <;> cases found <;> decide
  by_cases long : ∃ c rest, cs = '0' :: c :: rest
  · obtain ⟨c, rest, rfl⟩ := long
    have decimal := closing.readDecimal ('0' :: c :: rest)
    simp only [List.cons_append] at decimal ⊢
    rw [Formula.readNumeral, Formula.readNumeral]
    cases found : baseOf? c with
    | none => exact decimal
    | some base =>
      dsimp only
      rw [closing.baseDigits (small found)]
      obtain ⟨ds, rest⟩ := Formula.baseDigits base rest
      cases ds with
      | nil => rfl
      | cons d ds =>
        dsimp only
        rw [closing.endsNumber]
        split_ifs <;> rfl
  · have own : Formula.readNumeral cs = Formula.readDecimal cs := by
      rw [Formula.readNumeral]
      exact fun c rest same => long ⟨c, rest, same⟩
    rw [own, ← closing.readDecimal]
    by_cases zero : cs = ['0']
    · rw [zero]
      cases t with
      | nil => rfl
      | cons c t =>
        rw [closing c (.head _)]
        rfl
    · rw [Formula.readNumeral]
      intro c rest same
      obtain ⟨rest', rfl, tail⟩ := closing.head (by decide) same
      cases rest' with
      | nil => exact zero rfl
      | cons c rest' => exact long ⟨c, rest', rfl⟩

/-! ## Quotations -/

/-- No quotes close among parentheses. -/
lemma upToQuote_self (closing : Closing t) {quote : Char} (other : quote ≠ ')') :
    Formula.upToQuote quote t = none := by
  induction t with
  | nil => rfl
  | cons c t ih =>
    rw [closing c (.head _), Formula.upToQuote, if_neg (Ne.symm other), if_neg (by decide),
      ih fun c mem => closing c (.tail _ mem)]
    · rfl
    · exact nofun

lemma upToQuote (closing : Closing t) {quote : Char} (marks : quote = '"' ∨ quote = '\'')
    (cs : List Char) : upToQuote quote (cs ++ t) = (upToQuote quote cs).map (after t) := by
  have other : quote ≠ ')' ∧ quote ≠ '\\' := by rcases marks with rfl | rfl <;> decide
  induction cs using Formula.upToQuote.induct quote with
  | case1 => exact closing.upToQuote_self other.1
  | case2 c cs ih =>
    rw [List.cons_append, List.cons_append, Formula.upToQuote, Formula.upToQuote, ih]
    cases Formula.upToQuote quote cs <;> rfl
  | case3 cs =>
    rw [List.cons_append, Formula.upToQuote, Formula.upToQuote, if_pos rfl, if_pos rfl]
    · rfl
    all_goals exact fun _ _ same => absurd same other.2
  | case4 cs _ plain =>
    rw [List.cons_append, Formula.upToQuote, Formula.upToQuote, if_neg plain, if_neg plain]
    · rfl
    all_goals exact nofun
  | case5 c cs escaped unquoted unbroken ih =>
    by_cases last : c = '\\' ∧ cs = []
    -- a backslash at the end takes a parenthesis with it
    · obtain ⟨rfl, rfl⟩ := last
      cases t with
      | nil => simp [Formula.upToQuote, unquoted]
      | cons d t =>
        have none := Closing.upToQuote_self (fun c mem => closing c (.tail d mem)) other.1
        simp [Formula.upToQuote, none, unquoted]
    · rw [List.cons_append, Formula.upToQuote, Formula.upToQuote, if_neg unquoted,
        if_neg unquoted, if_neg unbroken, if_neg unbroken, ih]
      · cases Formula.upToQuote quote cs <;> rfl
      · exact escaped
      · rintro d more rfl same
        cases cs with
        | nil => exact last ⟨rfl, rfl⟩
        | cons d' cs => exact escaped d' cs rfl rfl

/-- Parentheses do not make up quotes. -/
lemma take_two (closing : Closing t) {quote : Char} (other : quote ≠ ')') (cs : List Char) :
    (cs ++ t).take 2 = [quote, quote] ↔ cs.take 2 = [quote, quote] := by
  match cs with
  | [] =>
    refine iff_of_false (fun same => other (closing quote ?_)) nofun
    exact List.mem_of_mem_take (by rw [← List.nil_append t, same]; exact .head _)
  | [c] =>
    refine iff_of_false (fun same => other (closing quote ?_)) nofun
    refine List.mem_of_mem_take (i := 1) ?_
    rw [List.singleton_append, List.take_succ_cons] at same
    rw [(List.cons.inj same).2]
    exact .head _
  | c :: d :: cs => rfl

lemma upToQuotes_self (closing : Closing t) {quote : Char} (other : quote ≠ ')') :
    Formula.upToQuotes quote t = none := by
  induction t with
  | nil => rfl
  | cons c t ih =>
    rw [closing c (.head _), Formula.upToQuotes, if_neg fun same => other same.1.symm,
      ih fun c mem => closing c (.tail _ mem)]
    · rfl
    · exact nofun

lemma upToQuotes (closing : Closing t) {quote : Char} (marks : quote = '"' ∨ quote = '\'')
    (cs : List Char) : upToQuotes quote (cs ++ t) = (upToQuotes quote cs).map (after t) := by
  have other : quote ≠ ')' ∧ quote ≠ '\\' := by rcases marks with rfl | rfl <;> decide
  induction cs using Formula.upToQuotes.induct quote with
  | case1 => exact closing.upToQuotes_self other.1
  | case2 c cs ih =>
    rw [List.cons_append, List.cons_append, Formula.upToQuotes, Formula.upToQuotes, ih]
    cases Formula.upToQuotes quote cs <;> rfl
  | case3 c cs _ quotes =>
    have within := (closing.take_two other.1 cs).2 quotes.2
    have long : 2 ≤ cs.length := by
      have length := congrArg List.length quotes.2
      rw [List.length_take, List.length_cons, List.length_singleton] at length
      omega
    rw [List.cons_append, Formula.upToQuotes, Formula.upToQuotes, if_pos quotes,
      if_pos ⟨quotes.1, within⟩, List.drop_append_of_le_length long]
    · rfl
    all_goals exact fun _ _ same => absurd (same ▸ quotes.1.symm) other.2
  | case4 c cs escaped unquoted ih =>
    have within : ¬(c = quote ∧ (cs ++ t).take 2 = [quote, quote]) := by
      rwa [closing.take_two other.1]
    by_cases last : c = '\\' ∧ cs = []
    -- a backslash at the end takes a parenthesis with it
    · obtain ⟨rfl, rfl⟩ := last
      cases t with
      | nil => simp [Formula.upToQuotes]
      | cons d t =>
        have none := Closing.upToQuotes_self (fun c mem => closing c (.tail d mem)) other.1
        simp [Formula.upToQuotes, none]
    · rw [List.cons_append, Formula.upToQuotes, Formula.upToQuotes, if_neg unquoted,
        if_neg within, ih]
      · cases Formula.upToQuotes quote cs <;> rfl
      · exact escaped
      · rintro d more rfl same
        cases cs with
        | nil => exact last ⟨rfl, rfl⟩
        | cons d' cs => exact escaped d' cs rfl rfl

lemma quotation (closing : Closing t) {quote : Char} (marks : quote = '"' ∨ quote = '\'')
    (cs : List Char) :
    quotation? (quote :: (cs ++ t)) = (quotation? (quote :: cs)).map (after t) := by
  have other : quote ≠ ')' := by rcases marks with rfl | rfl <;> decide
  rw [quotation?, quotation?]
  simp only [closing.take_two other]
  split_ifs with quotes
  · have long : 2 ≤ cs.length := by
      have length := congrArg List.length quotes
      rw [List.length_take, List.length_cons, List.length_singleton] at length
      omega
    rw [List.drop_append_of_le_length long, closing.upToQuotes marks]
  · exact closing.upToQuote marks cs

/-! ## Words and symbols -/

/-- Words end before parentheses. -/
lemma word (closing : Closing t) (cs : List Char) :
    (cs ++ t).takeWhile looksLikeName = cs.takeWhile looksLikeName ∧
      (cs ++ t).dropWhile looksLikeName = cs.dropWhile looksLikeName ++ t := by
  have ends : t.takeWhile looksLikeName = [] ∧ t.dropWhile looksLikeName = t := by
    cases t with
    | nil => exact ⟨rfl, rfl⟩
    | cons c t =>
      rw [closing c (.head _)]
      exact ⟨rfl, rfl⟩
  induction cs with
  | nil => exact ends
  | cons c cs ih =>
    rw [List.cons_append, List.takeWhile_cons, List.takeWhile_cons, List.dropWhile_cons,
      List.dropWhile_cons, ih.1, ih.2]
    split_ifs <;> exact ⟨rfl, rfl⟩

/-- Where no quotes open, a word is a name or one that is reserved. -/
lemma readWord (closing : Closing t) (cs : List Char) :
    readWord (cs ++ t) = (readWord cs).map (after t) := by
  rw [Formula.readWord, Formula.readWord, (closing.word cs).1, (closing.word cs).2]
  generalize cs.takeWhile looksLikeName = word
  generalize cs.dropWhile looksLikeName = rest
  have plain : (if reservedWords.contains (String.ofList word) then
        some (Token.word (String.ofList word), rest ++ t)
      else if Text.isIdentifier word then
        some (.name (String.ofList (Text.compatible word)), rest ++ t)
      else none) =
      (if reservedWords.contains (String.ofList word) then
        some (Token.word (String.ofList word), rest)
      else if Text.isIdentifier word then
        some (.name (String.ofList (Text.compatible word)), rest)
      else none).map (after t) := by
    split_ifs <;> rfl
  cases rest with
  | nil =>
    cases t with
    | nil => simpa using plain
    | cons c t =>
      have parenthesis := closing c (.head _)
      subst parenthesis
      simpa using plain
  | cons c rest =>
    simp only [List.cons_append] at plain ⊢
    by_cases marks : c = '"' ∨ c = '\''
    · have quoted : (decide (c = '"') || decide (c = '\'')) = true := by simpa using marks
      simp only [quoted, if_true, closing.quotation marks]
      cases marks? word with
      | none => exact plain
      | some m =>
        cases quotation? (c :: rest) with
        | none => rfl
        | some read =>
          simp only [Option.map_some, after, Option.bind_eq_bind, Option.bind_some]
          cases textLiteral? m read.1 <;> rfl
    · have quoted : (decide (c = '"') || decide (c = '\'')) = false := by simpa using marks
      simp only [quoted]
      exact plain

lemma readToken (closing : Closing t) (c : Char) (cs : List Char) :
    readToken (c :: (cs ++ t)) = (readToken (c :: cs)).map (after t) := by
  have word := closing.readWord (c :: cs)
  have numeral : (Formula.readNumeral (c :: cs ++ t)).map (fun x => (Token.number x.1, x.2)) =
      ((Formula.readNumeral (c :: cs)).map fun x => (.number x.1, x.2)).map (after t) := by
    rw [closing.readNumeral]
    cases Formula.readNumeral (c :: cs) <;> rfl
  have text (marks : c = '"' ∨ c = '\'') : (do
        let x ← quotation? (c :: cs ++ t)
        let t ← textLiteral? ⟨false, false, false⟩ x.1
        pure (Token.text t, x.2)) =
      (do
        let x ← quotation? (c :: cs)
        let t ← textLiteral? ⟨false, false, false⟩ x.1
        pure (Token.text t, x.2)).map (after t) := by
    rw [List.cons_append, closing.quotation marks]
    cases quotation? (c :: cs) with
    | none => rfl
    | some read =>
      simp only [Option.map_some, after, Option.bind_eq_bind, Option.bind_some]
      cases textLiteral? ⟨false, false, false⟩ read.1 <;> rfl
  rw [List.cons_append] at word numeral text
  unfold Formula.readToken
  dsimp only
  cases cs with
  | nil =>
    cases t with
    | nil =>
      have same : (after [] : Token × List Char → _) = id := funext fun read => by simp [after]
      rw [same, Option.map_id]
      rfl
    | cons d t =>
      have parenthesis := closing d (.head _)
      have digit : ')'.isDigit = false := rfl
      subst parenthesis
      simp only [List.nil_append, digit, Bool.and_false] at word numeral text ⊢
      split_ifs with number name marks
      exacts [numeral, word, text (by simpa using marks), rfl]
  | cons d cs =>
    simp only [List.cons_append] at word numeral text ⊢
    split_ifs with number name marks
    exacts [numeral, word, text (by simpa using marks), rfl]

lemma readSymbol {s : Symbol} {rest : List Char} (closing : Closing t)
    (read : readSymbol cs = some (s, rest)) : readSymbol (cs ++ t) = some (s, rest ++ t) := by
  unfold Formula.readSymbol at read
  split at read
  all_goals
    cases read
    try rfl
  all_goals
    simp only [List.cons_append]
    rw [Formula.readSymbol]
    try rfl
  all_goals
    intro more same
    obtain ⟨more, front, tail⟩ := closing.head (by decide) same
    first
    | simp_all; done
    | obtain ⟨more, next, -⟩ := closing.head (by decide) tail.symm
      simp_all

lemma unifyLines (closing : Closing t) (cs : List Char) :
    unifyLines (cs ++ t) = unifyLines cs ++ t := by
  induction cs using Formula.unifyLines.induct with
  | case1 cs ih =>
    rw [List.cons_append, List.cons_append, Formula.unifyLines, Formula.unifyLines, ih]
    rfl
  | case2 cs other ih =>
    rw [List.cons_append, Formula.unifyLines, Formula.unifyLines, ih]
    · rfl
    · exact other
    · exact closing.not_head (by decide) other
  | case3 c cs _ other ih =>
    rw [List.cons_append, Formula.unifyLines, Formula.unifyLines, ih]
    · rfl
    all_goals
      intros
      exact other ‹_›
  | case4 =>
    rw [List.nil_append]
    refine unifyLines_of_printable fun c mem => ?_
    rw [closing c mem]
    decide

end Closing

end Inspection.Formula
