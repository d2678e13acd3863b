import Inspection.Decimal.Reader
import Inspection.Proofs.Decimal.Nearest
import Mathlib.Data.List.TakeWhile

/-!
# Written numbers

The shape that numbers have in text. The digits of a number write it (`ofDigits_toDigits`) and do
not start with a zero (`head_toDigits`); a double has digits before a point, digits after it, an
exponent, or both of these, which write the number that its decimal stands for
(`exists_stored_write`).
-/

namespace Inspection

namespace Decimal

/-- Some digits. -/
structure Digits (cs : List Char) : Prop where
  some : cs ≠ []
  all : ∀ c ∈ cs, c.isDigit

/-- Digits of a number before the point: they start with a zero only if there is no other. -/
structure Whole (cs : List Char) : Prop extends Digits cs where
  head : ∀ rest, cs = '0' :: rest → rest = []

/-- The digits of a number. -/
lemma digits_toDigits (n : Nat) : Digits (Nat.toDigits 10 n) :=
  ⟨Nat.toDigits_ne_nil, fun _ => Nat.isDigit_of_mem_toDigits (by decide) (by decide)⟩

/-- Digits write a number in base ten. -/
lemma ofDigits_eq (cs : List Char) : ofDigits cs = Nat.ofDigitChars 10 cs 0 := by
  have step : ∀ (cs : List Char) (m : Nat),
      cs.foldl (fun n c => n * 10 + digitValue c) m = Nat.ofDigitChars 10 cs m := by
    intro cs
    induction cs with
    | nil => exact fun m => rfl
    | cons c rest ih =>
      intro m
      rw [List.foldl_cons, ih, Nat.mul_comm]
      rfl
  exact step cs 0

/-- The digits of a number write it. -/
@[simp] lemma ofDigits_toDigits (n : Nat) : ofDigits (Nat.toDigits 10 n) = n := by
  rw [ofDigits_eq, Nat.ofDigitChars_toDigits (by decide) (by decide)]

/-- Zeros after digits are powers of ten. -/
lemma ofDigits_append_zeros (cs : List Char) (k : Nat) :
    ofDigits (cs ++ List.replicate k '0') = ofDigits cs * 10 ^ k := by
  rw [ofDigits_eq, ofDigits_eq, Nat.ofDigitChars_append, Nat.ofDigitChars_replicate_zero,
    Nat.mul_comm]

/-- Zeros before digits write nothing. -/
lemma ofDigits_zeros_append (k : Nat) (cs : List Char) :
    ofDigits (List.replicate k '0' ++ cs) = ofDigits cs := by
  rw [ofDigits_eq, ofDigits_eq, Nat.ofDigitChars_append, Nat.ofDigitChars_replicate_zero,
    Nat.mul_zero]

/-- The digits of a number that is not zero do not start with a zero. -/
lemma head_toDigits {n : Nat} (positive : 0 < n) (rest : List Char) :
    Nat.toDigits 10 n ≠ '0' :: rest := by
  induction n using Nat.strongRecOn generalizing rest with
  | ind n ih =>
    by_cases small : n < 10
    · rw [Nat.toDigits_of_lt_base small]
      intro same
      have digit : ∀ m < 10, 0 < m → m.digitChar ≠ '0' := by decide
      exact digit n small positive (List.cons.inj same).1
    · rw [Nat.toDigits_of_base_le (by decide) (Nat.le_of_not_lt small)]
      cases front : Nat.toDigits 10 (n / 10) with
      | nil => exact absurd front Nat.toDigits_ne_nil
      | cons c cs =>
        intro same
        obtain ⟨rfl, -⟩ := List.cons.inj same
        exact ih (n / 10) (by omega) (by omega) cs front

/-- The digits of a number can stand before a point. -/
lemma whole_toDigits (n : Nat) : Whole (Nat.toDigits 10 n) where
  toDigits := digits_toDigits n
  head rest same := by
    by_cases zero : n = 0
    · subst zero
      exact (List.cons.inj same).2.symm
    · exact absurd same (head_toDigits (Nat.pos_of_ne_zero zero) rest)

/-- The sign before digits is read. -/
lemma signPart_digits (negative : Bool) {ds : List Char} (proper : Digits ds) (rest : List Char) :
    signPart ((if negative then ['-'] else []) ++ ds ++ rest) = (negative, ds ++ rest) := by
  cases ds with
  | nil => exact absurd rfl proper.some
  | cons d ds =>
    have digit : d.isDigit := proper.all d List.mem_cons_self
    cases negative with
    | true => rfl
    | false =>
      rw [if_neg (by decide), List.nil_append, List.cons_append, signPart]
      · rintro _ ⟨⟩
        cases digit
      · rintro _ ⟨⟩
        cases digit

end Decimal

namespace NumberFormat

/-- The parts of a written number: the digits before the point and after it, and the sign and the
digits of the exponent. -/
structure Parts where
  whole : List Char
  fraction : List Char
  exponent : Option (Bool × List Char)

/-- The exponent as text. -/
def exponentText : Option (Bool × List Char) → List Char
  | none => []
  | some (negative, digits) => 'e' :: (if negative then ['-'] else []) ++ digits

/-- The number as text. -/
def Parts.text (p : Parts) : List Char :=
  p.whole ++ (if p.fraction.isEmpty then [] else '.' :: p.fraction) ++ exponentText p.exponent

/-- The number that an exponent writes; without one it is zero. -/
def exponentNumber : Option (Bool × List Char) → Int
  | none => 0
  | some (negative, digits) =>
    if negative then -(Decimal.ofDigits digits : Int) else Decimal.ofDigits digits

/-- The decimal that the parts write. -/
def Parts.decimal (p : Parts) : Decimal :=
  ⟨Decimal.ofDigits (p.whole ++ p.fraction), exponentNumber p.exponent - p.fraction.length⟩

/-- The parts of a number that is no integer by the way it is written. -/
structure Parts.Proper (p : Parts) : Prop where
  whole : Decimal.Whole p.whole
  fraction : ∀ c ∈ p.fraction, c.isDigit
  exponent : ∀ e ∈ p.exponent, Decimal.Digits e.2
  broken : p.fraction ≠ [] ∨ p.exponent.isSome

lemma isDigit_zeros (n : Nat) : ∀ c ∈ List.replicate n '0', c.isDigit := by
  intro c mem
  rw [List.eq_of_mem_replicate mem]
  rfl

/-- The first digits of a number that does not start with a zero, filled up with zeros, can stand
before a point. -/
lemma whole_padded {digits : List Char} (proper : Decimal.Digits digits)
    (head : ∀ rest, digits ≠ '0' :: rest) (k : Nat) : Decimal.Whole
      (digits.take (k + 1) ++ List.replicate (k + 1 - (digits.take (k + 1)).length) '0') := by
  cases digits with
  | nil => exact absurd rfl proper.some
  | cons c cs =>
    refine ⟨⟨by simp, ?_⟩, fun rest same => ?_⟩
    · intro c' mem
      rcases List.mem_append.1 mem with own | zero
      · exact proper.all c' (List.mem_of_mem_take own)
      · exact isDigit_zeros _ c' zero
    · rw [List.take_succ_cons, List.cons_append] at same
      obtain ⟨rfl, -⟩ := List.cons.inj same
      exact absurd rfl (head cs)

/-- Digits have proper parts in positional form below one, which write the number whose first digit
has the given exponent. -/
lemma exists_writePositional_of_neg {digits : List Char} (proper : Decimal.Digits digits) {e : Int}
    (small : e < 0) : ∃ p : Parts, p.Proper ∧ stored.writePositional digits e = p.text ∧
      p.decimal.value = Decimal.value ⟨Decimal.ofDigits digits, e + 1 - digits.length⟩ := by
  rw [writePositional, if_pos small]
  refine ⟨⟨['0'], List.replicate (-e - 1).toNat '0' ++ digits, none⟩,
    ⟨Decimal.whole_toDigits 0, ?_, nofun, .inl ?_⟩, ?_, ?_⟩
  · intro c mem
    rcases List.mem_append.1 mem with zero | own
    · exact isDigit_zeros _ c zero
    · exact proper.all c own
  · simp [proper.some]
  · simp [Parts.text, exponentText, proper.some]
  · have number : Decimal.ofDigits (['0'] ++ (List.replicate (-e - 1).toNat '0' ++ digits)) =
        Decimal.ofDigits digits := by
      have all : ['0'] ++ (List.replicate (-e - 1).toNat '0' ++ digits) =
          List.replicate ((-e - 1).toNat + 1) '0' ++ digits := by
        rw [List.replicate_succ, List.cons_append]
        rfl
      rw [all, Decimal.ofDigits_zeros_append]
    have exponent : exponentNumber none - (List.replicate (-e - 1).toNat '0' ++ digits).length =
        e + 1 - digits.length := by
      rw [List.length_append, List.length_replicate, exponentNumber]
      omega
    rw [Parts.decimal, number, exponent]

/-- Digits that do not start with a zero have proper parts in positional form. They write the number
whose first digit has the given exponent. -/
lemma exists_writePositional {digits : List Char} (proper : Decimal.Digits digits)
    (head : ∀ rest, digits ≠ '0' :: rest) (e : Int) :
    ∃ p : Parts, p.Proper ∧ stored.writePositional digits e = p.text ∧
      p.decimal.value = Decimal.value ⟨Decimal.ofDigits digits, e + 1 - digits.length⟩ := by
  by_cases small : e < 0
  · exact exists_writePositional_of_neg proper small
  have front := whole_padded proper head e.toNat
  rw [writePositional, if_neg small]
  generalize places : e.toNat + 1 = n at front
  by_cases none : digits.drop n = []
  · -- all digits stand before the point, and a zero follows it
    refine ⟨⟨_, ['0'], Option.none⟩, ⟨front, isDigit_zeros 1, nofun, .inl (by simp)⟩, ?_, ?_⟩
    · simp [Parts.text, exponentText, none, stored]
    · have short : digits.length ≤ n := List.drop_eq_nil_iff.1 none
      have number : Decimal.ofDigits (digits.take n ++
          List.replicate (n - (digits.take n).length) '0' ++ ['0']) =
            Decimal.ofDigits digits * 10 ^ (n - digits.length + 1) := by
        rw [List.take_of_length_le short, List.append_assoc, ← List.replicate_succ',
          Decimal.ofDigits_append_zeros]
      have exponent : exponentNumber Option.none - ['0'].length +
          (n - digits.length + 1 : ℕ) = e + 1 - digits.length := by
        rw [exponentNumber, List.length_singleton]
        omega
      rw [Parts.decimal, number, Nat.cast_mul, Nat.cast_pow, Nat.cast_ofNat, Decimal.value_zeros,
        exponent]
  · refine ⟨⟨_, digits.drop n, Option.none⟩, ⟨front, ?_, nofun, .inl none⟩, ?_, ?_⟩
    · exact fun c mem => proper.all c (List.mem_of_mem_drop mem)
    · simp [Parts.text, exponentText, none]
    · have long : n < digits.length := by
        rw [List.drop_eq_nil_iff] at none
        omega
      have number : digits.take n ++ List.replicate (n - (digits.take n).length) '0' ++
          digits.drop n = digits := by
        rw [List.length_take_of_le long.le, Nat.sub_self, List.replicate_zero, List.append_nil,
          List.take_append_drop]
      have exponent : exponentNumber Option.none - (digits.drop n).length =
          e + 1 - digits.length := by
        rw [exponentNumber, List.length_drop]
        omega
      rw [Parts.decimal, number, exponent]

/-- Digits have proper parts in exponent form. They write the number whose first digit has the
given exponent. -/
lemma exists_writeExponent {digits : List Char} (proper : Decimal.Digits digits) (e : Int) :
    ∃ p : Parts, p.Proper ∧ stored.writeExponent digits e = p.text ∧
      p.decimal.value = Decimal.value ⟨Decimal.ofDigits digits, e + 1 - digits.length⟩ := by
  have exact : padLeft stored.exponentWidth (Nat.toDigits 10 e.natAbs) =
      Nat.toDigits 10 e.natAbs := by
    have some := List.length_pos_iff.2 (Nat.toDigits_ne_nil (b := 10) (n := e.natAbs))
    rw [show stored.exponentWidth = 1 from rfl, padLeft, Nat.sub_eq_zero_of_le some]
    rfl
  have sign : (if e < 0 then ['-'] else if stored.showsPlus then ['+'] else []) =
      if decide (e < 0) then ['-'] else [] := by simp [stored]
  have number : exponentNumber (some (decide (e < 0), Nat.toDigits 10 e.natAbs)) = e := by
    rw [exponentNumber, Decimal.ofDigits_toDigits]
    split_ifs with negative
    · have negative := of_decide_eq_true negative
      omega
    · have nonneg := of_decide_eq_false (Bool.eq_false_iff.2 negative)
      omega
  unfold writeExponent
  rw [sign, exact]
  cases digits with
  | nil => exact absurd rfl proper.some
  | cons c cs =>
    have first : Decimal.Whole [c] := by
      refine ⟨⟨by simp, fun c' mem => ?_⟩, fun rest same => (List.cons.inj same).2.symm⟩
      exact proper.all c' (List.mem_cons.2 (.inl (List.mem_singleton.1 mem)))
    refine ⟨⟨[c], cs, some (decide (e < 0), Nat.toDigits 10 e.natAbs)⟩,
      ⟨first, ?_, ?_, .inr rfl⟩, ?_, ?_⟩
    · exact fun c' mem => proper.all c' (List.mem_cons_of_mem _ mem)
    · rintro _ ⟨⟩
      exact Decimal.digits_toDigits _
    · cases cs with
      | nil => simp [Parts.text, exponentText]
      | cons c' cs => simp [Parts.text, exponentText]
    · have exponent : e - cs.length = e + 1 - (c :: cs).length := by
        rw [List.length_cons]
        omega
      rw [Parts.decimal, number, exponent]
      rfl

/-- A decimal number in a stored document has proper parts, which write it. -/
lemma exists_writeDecimal {d : Decimal} (nonneg : 0 ≤ d.mantissa) :
    ∃ p : Parts, p.Proper ∧ stored.writeDecimal d = p.text ∧ p.decimal.value = d.value := by
  by_cases zero : d.mantissa = 0
  · refine ⟨⟨['0'], ['0'], none⟩,
      ⟨Decimal.whole_toDigits 0, fun c mem => List.mem_singleton.1 mem ▸ rfl, nofun,
        .inl (by simp)⟩, ?_, ?_⟩
    · rw [writeDecimal, zero]
      rfl
    · rw [(Decimal.value_eq_zero_iff d).2 zero, Decimal.value_eq_zero_iff]
      rfl
  · have positive : 0 < d.mantissa.natAbs := Int.natAbs_pos.2 zero
    generalize leading : d.exponent + (Nat.toDigits 10 d.mantissa.natAbs).length - 1 = e
    have own : Decimal.value ⟨Decimal.ofDigits (Nat.toDigits 10 d.mantissa.natAbs),
        e + 1 - (Nat.toDigits 10 d.mantissa.natAbs).length⟩ = d.value := by
      have exponent : e + 1 - (Nat.toDigits 10 d.mantissa.natAbs).length = d.exponent := by omega
      rw [Decimal.ofDigits_toDigits, exponent, Int.natCast_natAbs, abs_of_nonneg nonneg]
    simp only [writeDecimal, if_neg zero, leading]
    split
    case isTrue =>
      obtain ⟨p, proper, text, value⟩ := exists_writePositional
        (Decimal.digits_toDigits d.mantissa.natAbs) (Decimal.head_toDigits positive) e
      exact ⟨p, proper, text, value.trans own⟩
    case isFalse =>
      obtain ⟨p, proper, text, value⟩ :=
        exists_writeExponent (Decimal.digits_toDigits d.mantissa.natAbs) e
      exact ⟨p, proper, text, value.trans own⟩

/-- A double that is not finite is written as null. -/
lemma stored_write_of_not_finite {x : Float} (other : x.isFinite = false) :
    stored.write x = "null" := by
  rw [Binary.isFinite_eq, Bool.and_eq_false_iff, Bool.not_eq_false', Bool.not_eq_false'] at other
  rw [write]
  split
  case isTrue => rfl
  case isFalse number =>
    rw [if_pos (other.resolve_left number)]
    exact ite_self _

/-- What is written of a finite double in a stored document: proper parts after a sign, which are
read as the double without it. -/
lemma exists_stored_write {x : Float} (finite : x.isFinite) :
    ∃ p : Parts, p.Proper ∧
      (stored.write x).toList = (if (Binary.ofFloat x).negative then ['-'] else []) ++ p.text ∧
      p.decimal.toFloat = if (Binary.ofFloat x).negative then -x else x := by
  generalize magnitude : (if (Binary.ofFloat x).negative then -x else x) = y
  obtain ⟨finite', plus⟩ : y.isFinite ∧ (Binary.ofFloat y).negative = false := by
    rw [← magnitude]
    split_ifs with negative
    · rw [Binary.isFinite_iff, Binary.ofFloat_neg finite, Binary.flip, negative]
      exact ⟨Binary.isFinite_iff.1 finite, rfl⟩
    · exact ⟨finite, Bool.eq_false_iff.2 negative⟩
  obtain ⟨p, proper, text, value⟩ := exists_writeDecimal (Decimal.shortest_nonneg y)
  refine ⟨p, proper, ?_, ?_⟩
  · rw [Binary.isFinite_eq, Bool.and_eq_true, Bool.not_eq_true', Bool.not_eq_true'] at finite
    have digits : stored.decimal y = Decimal.shortest y := rfl
    rw [write, if_neg (Bool.eq_false_iff.1 finite.1), if_neg (Bool.eq_false_iff.1 finite.2)]
    dsimp only
    rw [magnitude, digits, text]
    split_ifs with negative
    · simp
    · simp
  · rw [← Decimal.toFloat_shortest finite' plus]
    exact Decimal.toFloat_congr (Int.natCast_nonneg _) (Decimal.shortest_nonneg y) value

/-- What is written of a double in a stored document: null if it is not finite, and otherwise proper
parts after a sign. -/
lemma stored_write (x : Float) : stored.write x = "null" ∨ ∃ (negative : Bool) (p : Parts),
    p.Proper ∧ (stored.write x).toList = (if negative then ['-'] else []) ++ p.text := by
  by_cases finite : x.isFinite
  · obtain ⟨p, proper, text, -⟩ := exists_stored_write finite
    exact .inr ⟨_, p, proper, text⟩
  · exact .inl (stored_write_of_not_finite (Bool.eq_false_iff.2 finite))

end NumberFormat

end Inspection
