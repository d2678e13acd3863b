import Inspection.Json.Reader
import Inspection.Json.Writer
import Inspection.Proofs.Decimal.Written
import Mathlib.Tactic.Lemma
import Mathlib.Tactic.SplitIfs

/-!
# Reading written texts and numbers

A text that was written as a JSON string is read back, whatever characters it holds
(`readString_stringChars`). A number that was written is read back where a comma, a line break or
the end of the text follows it (`Stops`): an integer as itself, unless it has more digits than are
read (`readNumber_int`), and the parts of a double as a double (`readNumber_parts`).
-/

namespace Inspection.Json

/-! ## Texts -/

section

variable {a b c d : Char} {rest : List Char}

/-- A text goes on with an escaped code point. -/
def Coded (rest : List Char) : Prop :=
  ∃ a b c d others, rest = '\\' :: 'u' :: a :: b :: c :: d :: others

/-- An escaped code point that no other follows is read by itself. -/
lemma readString_single (single : ¬Coded rest) :
    readString ('\\' :: 'u' :: a :: b :: c :: d :: rest) = (do
      let n ← hex4? a b c d
      let (s, rest) ← readString rest
      return (charOf n :: s, rest)) := by
  rw [readString]
  rintro a' b' c' d' others rfl
  exact single ⟨a', b', c', d', others, rfl⟩

/-- What is read of an escaped code point has one. -/
lemma hex4?_of_readString {x : List Char × List Char}
    (h : readString ('\\' :: 'u' :: a :: b :: c :: d :: rest) = some x) :
    ∃ n, hex4? a b c d = some n := by
  cases found : hex4? a b c d with
  | some n => exact ⟨n, rfl⟩
  | none =>
    by_cases single : Coded rest
    · obtain ⟨a', b', c', d', others, rfl⟩ := single
      rw [readString, found] at h
      cases h
    · rw [readString_single single, found] at h
      cases h

/-- A code point below those of pairs is read, whatever is read after it. -/
lemma readString_code {n : Nat} (code : hex4? a b c d = some n) (low : n < 0xd800)
    {s after : List Char} (further : readString rest = some (s, after)) :
    readString ('\\' :: 'u' :: a :: b :: c :: d :: rest) = some (charOf n :: s, after) := by
  by_cases single : Coded rest
  · obtain ⟨a', b', c', d', others, rfl⟩ := single
    obtain ⟨m, code'⟩ := hex4?_of_readString further
    have apart : ¬(0xd800 ≤ n ∧ n < 0xdc00 ∧ 0xdc00 ≤ m ∧ m < 0xe000) := by omega
    rw [readString, code, code']
    simp only [Option.bind_eq_bind, Option.bind_some, if_neg apart, further]
    rfl
  · rw [readString_single single, code, further]
    rfl

end

/-- A control character is written by its code point. -/
lemma hex4?_hexDigits : ∀ n < 32, hex4? '0' '0' (Text.hexDigit (n / 16)) (Text.hexDigit (n % 16)) =
    some n ∧ Text.hexDigits 4 n = ['0', '0', Text.hexDigit (n / 16), Text.hexDigit (n % 16)] := by
  decide

/-- A character with an escape of its own is read, whatever is read after it. -/
lemma readString_short {c e : Char} (short : escape? e = some c) {rest s after : List Char}
    (further : readString rest = some (s, after)) :
    readString ('\\' :: e :: rest) = some (c :: s, after) := by
  have other : e ≠ 'u' := by
    rintro rfl
    cases short
  rw [readString, short]
  · simp [further]
  · rintro _ _ _ _ _ _ _ _ _ rfl _
    exact other rfl
  · rintro _ _ _ _ _ rfl _
    exact other rfl

/-- A character that was written is read, whatever is read after it. -/
lemma readString_escapedChar {c : Char} {rest s after : List Char}
    (further : readString rest = some (s, after)) :
    readString (escapedChar c ++ rest) = some (c :: s, after) := by
  rw [escapedChar]
  split_ifs with quote backslash feed back tab erase page control
  · exact readString_short (by simp [escape?, quote]) further
  · exact readString_short (by simp [escape?, backslash]) further
  · exact readString_short (by simp [escape?, feed]) further
  · exact readString_short (by simp [escape?, back]) further
  · exact readString_short (by simp [escape?, tab]) further
  · exact readString_short (by simp [escape?, erase]) further
  · exact readString_short (by simp [escape?, page]) further
  · obtain ⟨code, digits⟩ := hex4?_hexDigits c.toNat control
    have own : charOf c.toNat = c := by
      rw [charOf, if_neg (by omega), Char.ofNat_toNat]
    have read := readString_code code (by omega) further
    rw [own] at read
    rw [digits]
    exact read
  · rw [List.cons_append, List.nil_append, readString]
    · simp [control, further]
    all_goals grind

/-- The characters of a text that was written are read back. -/
lemma readString_escaped (cs rest : List Char) :
    readString (cs.flatMap escapedChar ++ '"' :: rest) = some (cs, rest) := by
  induction cs with
  | nil => rfl
  | cons c cs ih =>
    rw [List.flatMap_cons, List.append_assoc]
    exact readString_escapedChar ih

/-- A text that was written is read back. -/
lemma readString_stringChars (s : String) (rest : List Char) : ∃ cs,
    stringChars s ++ rest = '"' :: cs ∧ readString cs = some (s.toList, rest) :=
  ⟨_, by simp [stringChars], readString_escaped s.toList rest⟩

open Decimal NumberFormat

/-! ## Numbers -/

/-- What may follow a value in a text. -/
def Stops (rest : List Char) : Prop :=
  ∀ c ∈ rest.head?, c = ',' ∨ c = '\n'

/-- A character that is none of a number's stops it. -/
def Ends (rest : List Char) : Prop :=
  ∀ c ∈ rest.head?, c.isDigit = false

lemma Stops.ends {rest : List Char} (stops : Stops rest) : Ends rest := by
  intro c mem
  rcases stops c mem with rfl | rfl
  · rfl
  · rfl

/-- Digits are read to their end. -/
lemma digits_append {ds rest : List Char} (all : ∀ c ∈ ds, c.isDigit) (ends : Ends rest) :
    digits (ds ++ rest) = (ds, rest) := by
  rw [digits, List.takeWhile_append_of_pos all, List.dropWhile_append_of_pos all]
  cases rest with
  | nil => simp
  | cons c rest => simp [ends c rfl]

/-- The digits before the point are read to their end. -/
lemma wholePart_append {ds rest : List Char} (whole : Whole ds) (ends : Ends rest) :
    wholePart (ds ++ rest) = (ds, rest) := by
  cases ds with
  | nil => exact absurd rfl whole.some
  | cons c cs =>
    by_cases zero : c = '0'
    · subst zero
      obtain rfl := whole.head cs rfl
      rfl
    · rw [List.cons_append, wholePart]
      · exact digits_append whole.all ends
      · rintro _ ⟨⟩
        exact zero rfl

/-- The digits after the point are read to their end. -/
lemma fractionPart_append {ds rest : List Char} (all : ∀ c ∈ ds, c.isDigit) (ends : Ends rest)
    (point : rest.head? ≠ some '.') :
    fractionPart ((if ds.isEmpty then [] else '.' :: ds) ++ rest) = (ds, rest) := by
  cases ds with
  | nil =>
    cases rest with
    | nil => rfl
    | cons c rest =>
      rw [List.head?_cons, ne_eq, Option.some.injEq] at point
      simp [fractionPart, point]
  | cons d ds =>
    have found := digits_append all ends
    rw [if_neg (by simp), List.cons_append, fractionPart, found]

/-- The value of an exponent that is written. -/
def exponentValue : Option (Bool × List Char) → Option Int
  | none => none
  | some (negative, digits) => some (if negative then -(ofDigits digits : Int) else ofDigits digits)

/-- An exponent is read to its end. -/
lemma exponentPart?_append {e : Option (Bool × List Char)} {rest : List Char}
    (proper : ∀ x ∈ e, Digits x.2) (stops : Stops rest) :
    exponentPart? (exponentText e ++ rest) = (exponentValue e, rest) := by
  cases e with
  | none =>
    cases rest with
    | nil => rfl
    | cons c rest =>
      rcases stops c rfl with rfl | rfl
      · rfl
      · rfl
  | some x =>
    obtain ⟨negative, ds⟩ := x
    have proper := proper _ rfl
    have found := digits_append proper.all stops.ends
    rw [exponentText, List.cons_append, List.cons_append, exponentPart?, if_pos (.inl rfl),
      signPart_digits negative proper]
    dsimp only
    rw [found]
    cases ds with
    | nil => exact absurd rfl proper.some
    | cons d ds => rfl

/-- The double that parts write, with a sign. -/
def numberOf (negative : Bool) (p : Parts) : Float :=
  let x := Decimal.toFloat
    ⟨ofDigits (p.whole ++ p.fraction), (exponentValue p.exponent).getD 0 - p.fraction.length⟩
  if negative then -x else x

/-- Parts are read as their decimal. -/
lemma numberOf_eq (negative : Bool) (p : Parts) : numberOf negative p =
    if negative then -p.decimal.toFloat else p.decimal.toFloat := by
  have exponent : (exponentValue p.exponent).getD 0 = exponentNumber p.exponent := by
    cases p.exponent with
    | none => rfl
    | some e => rfl
  rw [numberOf, exponent]
  rfl

/-- What comes after the digits before the point does not start with a digit, and only a part after
the point starts with one. -/
lemma ends_exponentText {e : Option (Bool × List Char)} {rest : List Char} (stops : Stops rest) :
    Ends (exponentText e ++ rest) ∧ (exponentText e ++ rest).head? ≠ some '.' := by
  cases e with
  | none =>
    refine ⟨stops.ends, fun point => ?_⟩
    rcases stops '.' point with same | same
    · cases same
    · cases same
  | some x =>
    refine ⟨?_, nofun⟩
    rintro _ ⟨⟩
    rfl

/-- The parts of a double are read as a double. -/
lemma readNumber_parts {negative : Bool} {p : Parts} (proper : p.Proper) {rest : List Char}
    (stops : Stops rest) :
    readNumber negative (p.text ++ rest) = .ok (float (numberOf negative p), rest) := by
  obtain ⟨ends, point⟩ := ends_exponentText (e := p.exponent) stops
  have broken : Ends ((if p.fraction.isEmpty then [] else '.' :: p.fraction) ++
      (exponentText p.exponent ++ rest)) := by
    intro c mem
    split at mem
    case isTrue => exact ends c mem
    case isFalse =>
      obtain rfl := Option.some.inj mem
      rfl
  have whole := wholePart_append proper.whole broken
  have fraction := fractionPart_append proper.fraction ends point
  have exponent := exponentPart?_append proper.exponent stops
  have double : (p.fraction.isEmpty && (exponentValue p.exponent).isNone) = false := by
    rcases proper.broken with some | some
    · simp [some]
    · obtain ⟨x, e⟩ := Option.isSome_iff_exists.1 some
      simp [e, exponentValue]
  cases front : p.whole with
  | nil => exact absurd front proper.whole.some
  | cons c cs =>
    rw [Parts.text, List.append_assoc, List.append_assoc, readNumber, whole, front]
    simp only [fraction, exponent, double, numberOf, front]
    rfl

/-- An integer is read as itself, unless it has more digits than are read. -/
lemma readNumber_int {negative : Bool} {n : Nat} {rest : List Char} (stops : Stops rest) :
    readNumber negative (Nat.toDigits 10 n ++ rest) =
      if maxIntegerDigits < digitCount n then .error (.digits (digitCount n))
      else .ok (int (if negative then -n else n), rest) := by
  have whole := wholePart_append (whole_toDigits n) stops.ends
  have fraction : fractionPart rest = ([], rest) := by
    cases rest with
    | nil => rfl
    | cons c rest =>
      rcases stops c rfl with rfl | rfl
      · rfl
      · rfl
  have exponent : exponentPart? rest = (none, rest) :=
    exponentPart?_append (e := none) nofun stops
  rw [readNumber, whole, digitCount]
  cases front : Nat.toDigits 10 n with
  | nil => exact absurd front Nat.toDigits_ne_nil
  | cons c cs =>
    simp only [fraction, exponent, ← front, ofDigits_toDigits]
    rfl

end Inspection.Json
