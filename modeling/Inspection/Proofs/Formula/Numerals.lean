import Inspection.Formula.Lexer
import Inspection.Proofs.Formula.Writing

/-!
# Reading numbers of formulas

A number of a formula is read back where no word goes on after it (`Literal.Spelled.readNumeral`).
-/

namespace Inspection.Formula

open Decimal NumberFormat

/-- No word and no number goes on with what follows, and no quotes open there. -/
def Parted (rest : List Char) : Prop :=
  ∀ c ∈ rest.head?, looksLikeName c = false ∧ c ≠ '.' ∧ c ≠ '"' ∧ c ≠ '\''

variable {rest : List Char}

/-- The characters of names look like names. -/
lemma looksLikeName_of_part {c : Char} (part : Text.isAsciiPart c) : looksLikeName c = true := by
  rw [looksLikeName, ← Text.isAsciiPart, part, Bool.true_or]

lemma part_bounds {c : Char} (part : Text.isAsciiPart c) : 48 ≤ c.toNat ∧ c.toNat ≤ 122 := by
  simp only [Text.isAsciiPart, Char.isAlphanum, Char.isAlpha, Char.isUpper, Char.isLower,
    Char.isDigit, Bool.or_eq_true, Bool.and_eq_true, decide_eq_true_eq, UInt32.le_iff_toNat_le,
    beq_iff_eq] at part
  change (((65 ≤ c.toNat ∧ c.toNat ≤ 90) ∨ (97 ≤ c.toNat ∧ c.toNat ≤ 122)) ∨
    (48 ≤ c.toNat ∧ c.toNat ≤ 57)) ∨ c = '_' at part
  rcases part with part | rfl
  · omega
  · decide

/-- No character of a name is blank. -/
lemma isBlank_of_part {c : Char} (part : Text.isAsciiPart c) : Text.isBlank c = false := by
  have bounds := part_bounds part
  simp only [Text.isBlank, Bool.or_eq_false_iff, Bool.and_eq_false_iff, decide_eq_false_iff_not,
    beq_eq_false_iff_ne, ne_eq]
  omega

lemma isAsciiPart_of_isDigit {c : Char} (digit : c.isDigit) : Text.isAsciiPart c := by
  rw [Text.isAsciiPart, Char.isAlphanum, digit, Bool.or_true, Bool.true_or]

lemma Parted.endsNumber (parted : Parted rest) : endsNumber rest = true := by
  cases rest with
  | nil => rfl
  | cons c rest => rw [Formula.endsNumber, (parted c rfl).1]; rfl

/-- No digit and no underscore. -/
def Undigited (rest : List Char) : Prop :=
  ∀ c ∈ rest.head?, c.isDigit = false ∧ c ≠ '_'

lemma Parted.undigited (parted : Parted rest) : Undigited rest := by
  intro c mem
  have plain := (parted c mem).1
  refine ⟨Bool.eq_false_iff.2 fun digit => ?_, ?_⟩
  · rw [looksLikeName_of_part (isAsciiPart_of_isDigit digit)] at plain
    cases plain
  · rintro rfl
    cases plain

/-- Where no word goes on, no base follows. -/
lemma Parted.baseOf (parted : Parted rest) : ∀ c ∈ rest.head?, baseOf? c = none := by
  intro c mem
  have plain := (parted c mem).1
  unfold baseOf?
  split_ifs with sixteen eight two
  · rcases sixteen with rfl | rfl <;> cases plain
  · rcases eight with rfl | rfl <;> cases plain
  · rcases two with rfl | rfl <;> cases plain
  · rfl

/-- Digits are read to their end. -/
lemma digitPart_append {ds : List Char} (all : ∀ c ∈ ds, c.isDigit) (ends : Undigited rest) :
    digitPart (ds ++ rest) = (ds, rest) := by
  induction ds with
  | nil =>
    rw [List.nil_append]
    cases rest with
    | nil => rfl
    | cons c rest =>
      have other := (ends c rfl).1
      rw [digitPart.eq_def]
      split <;> simp_all
  | cons d ds ih =>
    have digit := all d List.mem_cons_self
    have found := ih fun c mem => all c (List.mem_cons_of_mem _ mem)
    -- an underscore after a digit would be passed over
    have next : ∀ cs, ds ++ rest ≠ '_' :: cs := by
      intro cs same
      cases ds with
      | nil => exact (ends '_' (by rw [← List.nil_append rest, same]; rfl)).2 rfl
      | cons d' ds =>
        obtain ⟨rfl, -⟩ := List.cons.inj same
        exact absurd (all '_' (by simp)) (by decide)
    rw [List.cons_append, digitPart]
    · rw [if_pos digit, found]
    · exact fun d' cs same => next _ same

/-- The sign before digits is read. -/
lemma SignSpelled.signPart {negative : Bool} {sign ds : List Char}
    (spelled : SignSpelled negative sign) (proper : Digits ds) (rest : List Char) :
    signPart (sign ++ ds ++ rest) = (negative, ds ++ rest) := by
  cases spelled with
  | bare => exact signPart_digits false proper rest
  | plus => rfl
  | minus => rfl

namespace ExponentSpelled

variable {e : Option (Bool × List Char)} {t : List Char}

/-- An exponent is read to its end. -/
lemma readExponent (spelled : ExponentSpelled e t) (proper : ∀ x ∈ e, Digits x.2)
    (parted : Parted rest) :
    readExponent (t ++ rest) = some (e.map fun x => exponentNumber (some x), rest) := by
  cases spelled with
  | absent =>
    cases rest with
    | nil => rfl
    | cons c rest =>
      have plain := (parted c rfl).1
      rw [List.nil_append, readExponent.eq_def]
      dsimp only
      rw [if_neg]
      · rfl
      · rintro (rfl | rfl) <;> cases plain
  | @present negative sign ds spelled =>
    have proper := proper _ rfl
    have found := digitPart_append proper.all parted.undigited
    rw [List.cons_append, List.cons_append, readExponent.eq_def]
    dsimp only
    rw [if_pos (.inl rfl), spelled.signPart proper, found]
    split
    case h_4 same _ _ =>
      obtain ⟨rfl, rfl⟩ := Prod.mk.inj same
      rfl
    all_goals exact absurd (Prod.mk.inj ‹(ds, rest) = _›).1 proper.some

/-- No digit goes on where an exponent may follow, and no base. -/
lemma after (spelled : ExponentSpelled e t) (parted : Parted rest) :
    Undigited (t ++ rest) ∧ ∀ c ∈ (t ++ rest).head?, baseOf? c = none := by
  cases spelled with
  | absent => exact ⟨parted.undigited, parted.baseOf⟩
  | present => exact ⟨by rintro _ ⟨⟩; decide, by rintro _ ⟨⟩; decide⟩

end ExponentSpelled

/-- Digits in base sixteen. -/
def HexDigits (ds : List Char) : Prop :=
  ∀ c ∈ ds, digitOf c < 16

lemma isAsciiPart_of_digitOf {c : Char} (digit : digitOf c < 16) : Text.isAsciiPart c := by
  unfold digitOf at digit
  split_ifs at digit with ten lower upper
  · exact isAsciiPart_of_isDigit ten
  · have letter : c.isLower = true := by
      simp only [Char.isLower, Bool.and_eq_true, decide_eq_true_eq]
      exact ⟨lower.1, lower.2.trans (by decide)⟩
    simp [Text.isAsciiPart, Char.isAlphanum, Char.isAlpha, letter]
  · have letter : c.isUpper = true := by
      simp only [Char.isUpper, decide_eq_true_eq]
      exact ⟨upper.1, upper.2.trans (by decide)⟩
    simp [Text.isAsciiPart, Char.isAlphanum, Char.isAlpha, letter]
  · exact absurd digit (by decide)

/-- Digits in base sixteen are read to their end. -/
lemma baseDigits_append {ds : List Char} (all : HexDigits ds) (parted : Parted rest) :
    baseDigits 16 (ds ++ rest) = (ds.map digitOf, rest) := by
  induction ds with
  | nil =>
    rw [List.nil_append]
    cases rest with
    | nil => rfl
    | cons c rest =>
      have plain := (parted c rfl).1
      have large : ¬ digitOf c < 16 := fun digit => by
        rw [looksLikeName_of_part (isAsciiPart_of_digitOf digit)] at plain
        cases plain
      rw [baseDigits]
      · rw [if_neg large]
        rfl
      · rintro _ _ ⟨⟩
        cases plain
  | cons d ds ih =>
    have digit := all d List.mem_cons_self
    rw [List.cons_append, baseDigits]
    · rw [if_pos digit, ih fun c mem => all c (List.mem_cons_of_mem _ mem)]
      rfl
    · rintro _ _ ⟨⟩
      exact absurd digit (by decide)

/-- The digits of a number in base sixteen write it. -/
lemma toDigits_sixteen (n : Nat) : HexDigits (Nat.toDigits 16 n) ∧
    ((Nat.toDigits 16 n).map digitOf).foldl (fun n d => n * 16 + d) 0 = n := by
  have digit : ∀ m < 16, digitOf m.digitChar = m := by decide
  induction n using Nat.strongRecOn with
  | ind n ih =>
    by_cases small : n < 16
    · rw [Nat.toDigits_of_lt_base small]
      simp [HexDigits, digit n small, small]
    · obtain ⟨all, value⟩ := ih (n / 16) (by omega)
      have last := digit (n % 16) (Nat.mod_lt _ (by decide))
      rw [Nat.toDigits_of_base_le (by decide) (Nat.le_of_not_lt small)]
      constructor
      · intro c mem
        rcases List.mem_append.1 mem with mem | mem
        · exact all c mem
        · rw [List.mem_singleton.1 mem, last]
          exact Nat.mod_lt _ (by decide)
      · rw [List.map_append, List.foldl_append, value]
        simp only [List.map_cons, List.map_nil, List.foldl_cons, List.foldl_nil, last]
        omega

/-- What writes a number in base ten is read as one. -/
lemma readNumeral_whole {whole : List Char} (proper : Whole whole)
    (other : ∀ c ∈ rest.head?, baseOf? c = none) :
    readNumeral (whole ++ rest) = readDecimal (whole ++ rest) := by
  rw [readNumeral.eq_def]
  split
  case h_2 => rfl
  -- digits that start with a zero have no other, so what follows it is not among them
  case h_1 c more same =>
    obtain ⟨d, ds, rfl⟩ := List.exists_cons_of_ne_nil proper.some
    obtain ⟨rfl, same⟩ := List.cons.inj same
    obtain rfl := proper.head ds rfl
    obtain ⟨-, rest_eq⟩ := List.cons.inj same
    rw [other c (by rw [show rest = c :: more from rest_eq]; rfl)]

/-- No point and no unit follows. -/
lemma Parted.plain {c : Char} {cs : List Char} (parted : Parted (c :: cs)) :
    c ≠ '.' ∧ c ≠ 'j' ∧ c ≠ 'J' := by
  obtain ⟨plain, point, -⟩ := parted c rfl
  refine ⟨point, ?_, ?_⟩ <;> (rintro rfl; cases plain)

/-- An integer that has no more digits than are read is read as itself. -/
lemma readDecimal_toDigits {n : Nat} (small : digitCount n ≤ maxIntegerDigits)
    (parted : Parted rest) :
    readDecimal (Nat.toDigits 10 n ++ rest) = some (.real (.integer n), rest) := by
  have whole := digitPart_append (digits_toDigits n).all parted.undigited
  have exponent : readExponent rest = some (none, rest) :=
    ExponentSpelled.absent.readExponent nofun parted
  have value : (if (Nat.toDigits 10 n).head? = some '0' then
      if (Nat.toDigits 10 n).any (· ≠ '0') then none else some (Numeral.real (.integer 0), rest)
      else if maxIntegerDigits < (Nat.toDigits 10 n).length then none
      else some (Numeral.real (.integer (ofDigits (Nat.toDigits 10 n))), rest)) =
      some (.real (.integer n), rest) := by
    by_cases zero : (Nat.toDigits 10 n).head? = some '0'
    · obtain ⟨ds, front⟩ := List.head?_eq_some_iff.1 zero
      rw [(whole_toDigits n).head ds front] at front
      have null : n = 0 := by rw [← ofDigits_toDigits n, front]; rfl
      rw [if_pos zero, front, null]
      rfl
    · rw [if_neg zero, ofDigits_toDigits]
      exact if_neg (Nat.not_lt_of_le small)
  rw [← value]
  unfold readDecimal
  rw [whole]
  cases rest with
  | nil => simp [exponent, parted.endsNumber]
  | cons c rest =>
    obtain ⟨point, small, large⟩ := parted.plain
    simp [exponent, parted.endsNumber, point, small, large]

/-- The parts of a double are read as a double. -/
lemma readDecimal_parts {p : Parts} {t : List Char} (proper : p.Proper)
    (spelled : ExponentSpelled p.exponent t) (parted : Parted rest) :
    readDecimal (decimalDigits p ++ t ++ rest) = some (.real (.float p.decimal.toFloat), rest) := by
  have exponent := spelled.readExponent proper.exponent parted
  have tail := (spelled.after parted).1
  have whole : digitPart (decimalDigits p ++ t ++ rest) = (p.whole,
      (if p.fraction.isEmpty then [] else '.' :: p.fraction) ++ (t ++ rest)) := by
    rw [decimalDigits, List.append_assoc, List.append_assoc]
    refine digitPart_append proper.whole.all ?_
    cases p.fraction with
    | nil => exact tail
    | cons =>
      rintro _ ⟨⟩
      exact ⟨rfl, by decide⟩
  have value : p.decimal = ⟨ofDigits (p.whole ++ p.fraction),
      (p.exponent.map fun x => exponentNumber (some x)).getD 0 - p.fraction.length⟩ := by
    rw [Parts.decimal]
    cases p.exponent <;> rfl
  have ends := parted.endsNumber
  unfold readDecimal
  rw [whole, value]
  cases front : p.fraction with
  | nil =>
    -- without digits after the point there is an exponent
    obtain ⟨x, some⟩ : ∃ x, p.exponent = some x := by
      rcases proper.broken with broken | broken
      · exact absurd front broken
      · exact Option.isSome_iff_exists.1 broken
    rw [some] at spelled exponent ⊢
    obtain ⟨more, start⟩ : ∃ more, t ++ rest = 'e' :: more := by
      cases spelled
      exact ⟨_, rfl⟩
    rw [start] at exponent ⊢
    cases rest with
    | nil => simp [exponent, ends]
    | cons c rest =>
      obtain ⟨-, small, large⟩ := parted.plain
      simp [exponent, ends, small, large]
  | cons d ds =>
    have fraction := digitPart_append proper.fraction tail
    rw [front, List.cons_append] at fraction
    cases rest with
    | nil =>
      rw [List.append_nil] at exponent fraction ⊢
      simp [fraction, exponent, ends]
    | cons c rest =>
      obtain ⟨-, small, large⟩ := parted.plain
      simp [fraction, exponent, ends, small, large]

/-- The character is one of those that numbers are written with. -/
def InNumber (c : Char) : Prop :=
  digitOf c < 16 ∨ c = 'x' ∨ c = '.' ∨ c = '+' ∨ c = '-'

namespace Literal.Spelled

variable {l : Literal} {t : List Char}

/-- A number is read where no word goes on. -/
lemma readNumeral (spelled : l.Spelled t) (parted : Parted rest) :
    readNumeral (t ++ rest) = some (.real l, rest) := by
  cases spelled with
  | @decimal n small =>
    rw [readNumeral_whole (whole_toDigits n) parted.baseOf, readDecimal_toDigits small parted]
  | @hexadecimal n =>
    obtain ⟨digits, value⟩ := toDigits_sixteen n
    have read := baseDigits_append digits parted
    have base : baseOf? 'x' = some 16 := by decide
    rw [List.cons_append, List.cons_append, Formula.readNumeral, base]
    simp only [read]
    cases front : (Nat.toDigits 16 n).map digitOf with
    | nil => exact absurd (List.map_eq_nil_iff.1 front) Nat.toDigits_ne_nil
    | cons d ds =>
      rw [front] at value
      simp only [parted.endsNumber, if_true, value]
  | @fraction p t proper exponent =>
    have other : ∀ c ∈ ((if p.fraction.isEmpty then [] else '.' :: p.fraction) ++
        (t ++ rest)).head?, baseOf? c = none := by
      cases p.fraction with
      | nil => exact (exponent.after parted).2
      | cons =>
        rintro _ ⟨⟩
        decide
    have read := readDecimal_parts proper exponent parted
    rw [decimalDigits, List.append_assoc, List.append_assoc] at read ⊢
    rw [readNumeral_whole proper.whole other, read]

/-- A number starts with a digit. -/
lemma head (spelled : l.Spelled t) : ∃ c cs, t = c :: cs ∧ c.isDigit := by
  have first : ∀ {ds more : List Char}, Digits ds → ∃ c cs, ds ++ more = c :: cs ∧ c.isDigit := by
    intro ds more digits
    obtain ⟨c, cs, rfl⟩ := List.exists_cons_of_ne_nil digits.some
    exact ⟨c, _, rfl, digits.all c List.mem_cons_self⟩
  cases spelled with
  | @decimal n =>
    rw [← List.append_nil (Nat.toDigits 10 n)]
    exact first (digits_toDigits n)
  | hexadecimal => exact ⟨'0', _, rfl, rfl⟩
  | fraction proper =>
    rw [decimalDigits, List.append_assoc]
    exact first proper.whole.toDigits

lemma chars (spelled : l.Spelled t) : ∀ c ∈ t, InNumber c := by
  have digit : ∀ c : Char, c.isDigit → digitOf c < 16 := by
    intro c digit
    rw [digitOf, if_pos digit]
    simp only [Char.isDigit, Bool.and_eq_true, decide_eq_true_eq, UInt32.le_iff_toNat_le] at digit
    exact (Nat.sub_le_sub_right digit.2 _).trans_lt (by decide)
  intro c mem
  cases spelled with
  | @decimal n => exact .inl (digit c ((digits_toDigits n).all c mem))
  | @hexadecimal n =>
    rcases List.mem_cons.1 mem with rfl | mem
    · exact .inl (by decide)
    rcases List.mem_cons.1 mem with rfl | mem
    · exact .inr (.inl rfl)
    · exact .inl ((toDigits_sixteen n).1 c mem)
  | @fraction p t proper exponent =>
    rcases List.mem_append.1 mem with mem | mem
    · rcases List.mem_append.1 mem with mem | mem
      · exact .inl (digit c (proper.whole.all c mem))
      · split at mem
        · cases mem
        · rcases List.mem_cons.1 mem with rfl | mem
          · exact .inr (.inr (.inl rfl))
          · exact .inl (digit c (proper.fraction c mem))
    · cases same : p.exponent with
      | none =>
        rw [same] at exponent
        cases exponent
        cases mem
      | some x =>
        rw [same] at exponent
        cases exponent with
        | present sign =>
          rcases List.mem_append.1 mem with mem | mem
          · rcases List.mem_cons.1 mem with rfl | mem
            · exact .inl (by decide)
            · cases sign with
              | bare => cases mem
              | plus => exact .inr (.inr (.inr (.inl (List.mem_singleton.1 mem))))
              | minus => exact .inr (.inr (.inr (.inr (List.mem_singleton.1 mem))))
          · exact .inl (digit c ((proper.exponent _ same).all c mem))

end Literal.Spelled

end Inspection.Formula
