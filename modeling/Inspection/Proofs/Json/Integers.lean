import Inspection.Proofs.Document

/-!
# Integers of documents

How long the integers of a document are. A text writes an integer with no more digits than are read,
so the integers in a document are short (`short_of_read`), and so is a count that is read in one, be
it written as an integer, a double or a text (`Reader.short_of_count`).
-/

namespace Inspection

namespace Decimal

/-- Digits write a number below the power of ten with as many zeros. -/
lemma ofDigits_lt {cs : List Char} (all : ∀ c ∈ cs, c.isDigit) :
    ofDigits cs < 10 ^ cs.length := by
  have further : ∀ n, Nat.ofDigitChars 10 cs n < (n + 1) * 10 ^ cs.length := by
    induction cs with
    | nil => simp
    | cons c cs ih =>
      intro n
      have digit : c.toNat - '0'.toNat ≤ 9 :=
        Nat.sub_le_iff_le_add.2 (Char.isDigit_iff_toNat.1 (all c List.mem_cons_self)).2
      rw [Nat.ofDigitChars_cons, List.length_cons]
      calc Nat.ofDigitChars 10 cs (10 * n + (c.toNat - '0'.toNat))
        _ < (10 * n + (c.toNat - '0'.toNat) + 1) * 10 ^ cs.length :=
          ih (fun c mem => all c (List.mem_cons_of_mem _ mem)) _
        _ ≤ ((n + 1) * 10) * 10 ^ cs.length := Nat.mul_le_mul_right _ (by omega)
        _ = (n + 1) * 10 ^ (cs.length + 1) := by rw [Nat.pow_succ', Nat.mul_assoc]
  rw [ofDigits_eq]
  simpa using further 0

/-- What digits write has no more digits than they are. -/
lemma digitCount_ofDigits {cs : List Char} (digits : Digits cs) :
    digitCount (ofDigits cs) ≤ cs.length :=
  (Nat.length_toDigits_le_iff (by decide) (List.length_pos_iff.2 digits.some)).2
    (ofDigits_lt digits.all)

end Decimal

namespace Json

open Decimal

/-- The integers in the value have no more digits than are read. -/
inductive Short : Json → Prop
  | null : Short null
  | bool {b : Bool} : Short (bool b)
  | int {n : Int} (few : digitCount n.natAbs ≤ maxIntegerDigits) : Short (int n)
  | float {x : Float} : Short (float x)
  | text {s : String} : Short (text s)
  | list {items : List Json} (all : ∀ j ∈ items, Short j) : Short (list items)
  | record {members : List (String × Json)} (all : ∀ m ∈ members, Short m.2) :
    Short (record members)

section

variable {cs rest : List Char} {j : Json}

/-- What is read before a point are digits. -/
lemma isDigit_of_wholePart {ds : List Char} (h : wholePart cs = (ds, rest)) :
    ∀ c ∈ ds, c.isDigit := by
  unfold wholePart at h
  split at h
  case h_1 =>
    cases h
    simp
  case h_2 =>
    cases h
    exact fun c mem => List.mem_takeWhile_imp mem

/-- A number that is read is a double, or an integer of no more digits than are read. -/
lemma short_of_readNumber {negative : Bool} (h : readNumber negative cs = .ok (j, rest)) :
    j.Short := by
  unfold readNumber at h
  split at h
  case h_1 => cases h
  case h_2 ds after some whole =>
    dsimp only at h
    split at h
    case isTrue =>
      split at h
      case isTrue => cases h
      case isFalse long =>
        cases h
        have digits : Digits ds := ⟨some, isDigit_of_wholePart whole⟩
        have few := (digitCount_ofDigits digits).trans (Nat.not_lt.1 long)
        cases negative with
        | true => exact .int (by simpa using few)
        | false => exact .int (by simpa using few)
    case isFalse =>
      cases h
      exact .float

/-- No word stands for an integer. -/
lemma short_of_readWord (h : readWord cs = some (j, rest)) : j.Short := by
  obtain ⟨⟨word, value⟩, mem, h⟩ := List.exists_of_findSome?_eq_some h
  dsimp only at h
  split_ifs at h
  cases h
  have all : ∀ w ∈ words, w.2.Short := by
    rw [words]
    simp only [List.forall_mem_cons]
    exact ⟨.null, .bool, .bool, .float, .float, .float, List.forall_mem_nil _⟩
  exact all _ mem

/-- A member that is put among others is the new one or one of theirs. -/
lemma mem_of_mem_putEntry {key : String} {value : Json} {before : List (String × Json)}
    {m : String × Json} (mem : m ∈ putEntry key value before) : m = (key, value) ∨ m ∈ before := by
  induction before with
  | nil => exact .inl (List.mem_singleton.1 mem)
  | cons first rest ih =>
    rw [putEntry] at mem
    split at mem
    case isTrue =>
      exact (List.mem_cons.1 mem).imp_right (List.mem_cons_of_mem _)
    case isFalse =>
      rcases List.mem_cons.1 mem with rfl | mem
      · exact .inr List.mem_cons_self
      · exact (ih mem).imp_right (List.mem_cons_of_mem _)

end

mutual

/-- The integers in a value that is read are short. -/
theorem short_of_readValue {fuel : Nat} {cs rest : List Char} {j : Json}
    (h : readValue fuel cs = .ok (j, rest)) : j.Short := by
  match fuel with
  | 0 => cases h
  | fuel + 1 =>
    unfold readValue at h
    split at h
    case h_1 =>
      obtain ⟨read, -, h⟩ := bind_eq_ok.1 h
      cases h
      exact .text
    case h_2 =>
      split at h
      case h_1 =>
        cases h
        exact .list (List.forall_mem_nil _)
      case h_2 =>
        obtain ⟨⟨items, after⟩, read, h⟩ := bind_eq_ok.1 h
        cases h
        exact .list (short_of_readItems read)
    case h_3 =>
      split at h
      case h_1 =>
        cases h
        exact .record (List.forall_mem_nil _)
      case h_2 =>
        obtain ⟨⟨members, after⟩, read, h⟩ := bind_eq_ok.1 h
        cases h
        exact .record (short_of_readMembers (List.forall_mem_nil _) read)
    case h_4 =>
      split at h
      case h_1 found word =>
        cases h
        exact short_of_readWord word
      case h_2 =>
        split at h
        case h_1 => exact short_of_readNumber h
        case h_2 => exact short_of_readNumber h

/-- The integers in items that are read are short. -/
theorem short_of_readItems {fuel : Nat} {cs rest : List Char} {items : List Json}
    (h : readItems fuel cs = .ok (items, rest)) : ∀ j ∈ items, j.Short := by
  match fuel with
  | 0 => cases h
  | fuel + 1 =>
    unfold readItems at h
    obtain ⟨⟨item, after⟩, read, h⟩ := bind_eq_ok.1 h
    have own := short_of_readValue read
    dsimp only at h
    split at h
    case h_1 =>
      obtain ⟨⟨more, after⟩, read, h⟩ := bind_eq_ok.1 h
      cases h
      exact List.forall_mem_cons.2 ⟨own, short_of_readItems read⟩
    case h_2 =>
      cases h
      exact List.forall_mem_cons.2 ⟨own, List.forall_mem_nil _⟩
    case h_3 => cases h

/-- The integers in members that are read after short ones are short. -/
theorem short_of_readMembers {fuel : Nat} {cs rest : List Char}
    {before members : List (String × Json)} (short : ∀ m ∈ before, m.2.Short)
    (h : readMembers fuel cs before = .ok (members, rest)) : ∀ m ∈ members, m.2.Short := by
  match fuel with
  | 0 => cases h
  | fuel + 1 =>
    unfold readMembers at h
    split at h
    case h_1 =>
      obtain ⟨⟨key, after⟩, -, h⟩ := bind_eq_ok.1 h
      dsimp only at h
      split at h
      case h_1 =>
        obtain ⟨⟨value, after⟩, read, h⟩ := bind_eq_ok.1 h
        have all : ∀ m ∈ putEntry (String.ofList key) value before, m.2.Short := by
          intro m mem
          rcases mem_of_mem_putEntry mem with rfl | mem
          · exact short_of_readValue read
          · exact short m mem
        dsimp only at h
        split at h
        case h_1 => exact short_of_readMembers all h
        case h_2 =>
          cases h
          exact all
        case h_3 => cases h
      case h_2 => cases h
    case h_2 => cases h

end

/-- The integers in a document have no more digits than are read. -/
theorem short_of_read {s : String} {j : Json} (h : Json.read s = .ok j) : j.Short := by
  rw [Json.read] at h
  split at h
  case h_1 value rest read =>
    split_ifs at h
    cases h
    exact short_of_readValue read
  case h_2 => cases h

end Json

namespace Decimal

/-- The digits of an integer in a text are digits. -/
lemma digits_of_integerDigits {s : String} {negative : Bool} {ds : List Char}
    (h : integerDigits? s = some (negative, ds)) : Digits ds := by
  rw [integerDigits?] at h
  obtain ⟨unsigned, -, h⟩ := Option.bind_eq_some_iff.1 h
  obtain ⟨whole, -, h⟩ := Option.bind_eq_some_iff.1 h
  obtain ⟨bare, -, h⟩ := Option.bind_eq_some_iff.1 h
  dsimp only at h
  split_ifs at h with other zeros
  rw [Option.some.injEq, Prod.mk.injEq] at h
  rw [h.2, Bool.or_eq_true, not_or, Bool.not_eq_true', Bool.not_eq_false, List.all_eq_true] at other
  exact ⟨by simpa using other.1, other.2⟩

/-- A number below a small power of ten has no more digits than are read. -/
lemma few_of_lt {n k : Nat} (some : 0 < k) (small : k ≤ maxIntegerDigits) (h : n < 10 ^ k) :
    digitCount n ≤ maxIntegerDigits :=
  ((Nat.length_toDigits_le_iff (by decide) some).2 h).trans small

end Decimal

namespace Reader

open Decimal Reading

variable {j : Json}

/-- An integer that is read where the integers are short is short. -/
lemma short_of_integer {n : Int} (short : j.Short) (h : integer j = found n) :
    digitCount n.natAbs ≤ maxIntegerDigits := by
  cases short with
  | int few =>
    cases h
    exact few
  | bool =>
    cases h
    exact few_of_lt (k := 1) (by decide) (by decide) (by split <;> decide)
  | float =>
    rw [integer] at h
    split at h
    case isTrue => cases h
    case isFalse =>
      split at h
      case h_1 => cases h
      case h_2 =>
        split at h
        case isTrue within =>
          cases h
          exact few_of_lt (k := 19) (by decide) (by decide) (by omega)
        case isFalse => cases h
  | text =>
    rw [integer] at h
    split at h
    case h_1 negative ds digits =>
      split at h
      case isTrue => cases h
      case isFalse long =>
        cases h
        have few := (digitCount_ofDigits (digits_of_integerDigits digits)).trans (Nat.not_lt.1 long)
        cases negative with
        | true => simpa using few
        | false => simpa using few
    case h_2 => cases h
  | null | list _ | record _ => cases h

/-- A count that is read where the integers are short is short. -/
lemma short_of_count {c : Count} (short : j.Short) (h : count j = found c) :
    digitCount c.val ≤ maxIntegerDigits := by
  rw [count] at h
  cases read : integer j with
  | found n =>
    have few := short_of_integer short read
    rw [read, Reading.andThen] at h
    split at h
    case isTrue some =>
      cases h
      have same : n.toNat = n.natAbs := by omega
      simpa only [same] using few
    case isFalse => cases h
  | refused problems =>
    rw [read] at h
    cases h

end Reader

end Inspection
