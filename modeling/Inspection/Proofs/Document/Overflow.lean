import Inspection.Proofs.Decimal.Order
import Inspection.Proofs.Document
import Inspection.Proofs.Double.Order
import Inspection.Schema.Kind
import Mathlib.Data.Set.Lattice

/-!
# Numbers too large for integers

An integer of a document may be written as a double, but a double is read as one only below a bound.
A reading `Reports` a set of problems if these are just what is wrong, so that it finds something
just if there are none (`exists_found_iff`). A reader whose only problems are doubles that are too
large reports them at their places; this goes from the parts of a list and of a record over to the
whole (`Reports.items`, `Reports.before`).
-/

namespace Inspection

open Reader

/-! ## Places -/

namespace Step

variable {W : Set (List Step)}

/-- The places that start with a step. -/
def before (step : Step) (W : Set (List Step)) : Set (List Step) :=
  (step :: ·) '' W

/-- Nothing is further down than nowhere. -/
@[simp] lemma before_empty {step : Step} : step.before ∅ = ∅ :=
  Set.image_empty _

/-- The places in the items of a list from a position on. -/
def inItems (i : ℕ) (W : Set (List Step)) : Set (List Step) :=
  {place | ∃ k rest, i ≤ k ∧ rest ∈ W ∧ place = .item k :: rest}

/-- There are no places in items where there are none in any. -/
@[simp] lemma inItems_empty {i : ℕ} : inItems i ∅ = ∅ := by
  apply Set.eq_empty_of_forall_notMem
  rintro place ⟨k, rest, -, mem, -⟩
  exact mem

/-- The items from a position on are the one there and those after it. -/
lemma inItems_eq {i : ℕ} : inItems i W = (item i).before W ∪ inItems (i + 1) W := by
  ext place
  constructor
  · rintro ⟨k, rest, le, mem, rfl⟩
    rcases Nat.eq_or_lt_of_le le with rfl | lt
    · exact .inl ⟨rest, mem, rfl⟩
    · exact .inr ⟨k, rest, lt, mem, rfl⟩
  · rintro (⟨rest, mem, rfl⟩ | ⟨k, rest, lt, mem, rfl⟩)
    · exact ⟨i, rest, le_rfl, mem, rfl⟩
    · exact ⟨k, rest, Nat.le_of_lt lt, mem, rfl⟩

end Step

namespace Json

/-- The part of a value one step down. -/
def down? : Json → Step → Option Json
  | record members, .member name => members.lookup name
  | list items, .item i => items[i]?
  | _, _ => none

/-- The part of a value at a place. -/
def part? : Json → List Step → Option Json
  | j, [] => some j
  | j, step :: rest => (j.down? step).bind fun part => part.part? rest

/-- The number at a place is a double that is too large to be read as an integer. -/
def Oversized (j : Json) (place : List Step) : Prop :=
  ∃ x, j.part? place = some (float x) ∧ 2 ^ 63 ≤ |(Binary.ofFloat x).signed|

/-- The integers in the value are within the range of the doubles. -/
inductive InRange : Json → Prop
  | null : InRange null
  | bool {b : Bool} : InRange (bool b)
  | int {n : Int} (near : (Decimal.floatOfInt? n).isSome) : InRange (int n)
  | float {x : Float} : InRange (float x)
  | text {s : String} : InRange (text s)
  | list {items : List Json} (all : ∀ j ∈ items, InRange j) : InRange (list items)
  | record {members : List (String × Json)} (all : ∀ m ∈ members, InRange m.2) :
    InRange (record members)

variable {j v : Json} {step : Step} {W V : Set (List Step)}

@[simp] lemma inRange_text {s : String} : (text s).InRange :=
  .text

@[simp] lemma inRange_float {x : Float} : (float x).InRange :=
  .float

@[simp] lemma inRange_list {items : List Json} :
    (list items).InRange ↔ ∀ j ∈ items, j.InRange := by
  constructor
  · intro range
    cases range with
    | list all => exact all
  · exact .list

@[simp] lemma inRange_record {members : List (String × Json)} :
    (record members).InRange ↔ ∀ m ∈ members, m.2.InRange := by
  constructor
  · intro range
    cases range with
    | record all => exact all
  · exact .record

/-- The integers in a member are within the range of the doubles if those in the record are. -/
lemma InRange.member {members : List (String × Json)} {name : String}
    (range : (Json.record members).InRange) (there : members.lookup name = some v) : v.InRange :=
  inRange_record.1 range _ (mem_of_lookup there)

/-- The problems of a value that has doubles at some places which are too large there. -/
def overflows (j : Json) (W : Set (List Step)) : Set Problem :=
  {p | p.mismatch = .beyondInteger ∧ p.path ∈ W ∧ j.Oversized p.path}

@[simp] lemma overflows_empty : j.overflows ∅ = ∅ := by
  simp [overflows]

lemma overflows_union : j.overflows (W ∪ V) = j.overflows W ∪ j.overflows V := by
  ext p
  constructor
  · rintro ⟨mismatch, first | second, large⟩
    · exact .inl ⟨mismatch, first, large⟩
    · exact .inr ⟨mismatch, second, large⟩
  · rintro (⟨mismatch, mem, large⟩ | ⟨mismatch, mem, large⟩)
    · exact ⟨mismatch, .inl mem, large⟩
    · exact ⟨mismatch, .inr mem, large⟩

/-- A part has the doubles of the whole that are further down there. -/
lemma overflows_before (there : j.down? step = some v) :
    j.overflows (step.before W) = Problem.under step '' v.overflows W := by
  ext p
  constructor
  · rintro ⟨mismatch, ⟨rest, mem, e⟩, large⟩
    rw [← e, Oversized, part?, there] at large
    exact ⟨⟨rest, p.mismatch⟩, ⟨mismatch, mem, large⟩, congrArg (Problem.mk · p.mismatch) e⟩
  · rintro ⟨q, ⟨mismatch, mem, large⟩, rfl⟩
    refine ⟨mismatch, ⟨q.path, mem, rfl⟩, ?_⟩
    rwa [Problem.under, Oversized, part?, there]

/-- Where nothing is further down there are no doubles. -/
lemma overflows_before_of_none (out : j.down? step = none) : j.overflows (step.before W) = ∅ := by
  apply Set.eq_empty_of_forall_notMem
  rintro p ⟨-, ⟨rest, mem, e⟩, x, there, -⟩
  rw [← e, part?, out] at there
  cases there

end Json

/-! ## Problems of readings -/

namespace Reading

variable {α β : Type} {P Q : Set Problem} {j v : Json} {step : Step} {W V : Set (List Step)}

/-- The problems are just what is wrong. -/
def Reports (P : Set Problem) : Reading α → Prop
  | found _ => P = ∅
  | refused ps => ps ≠ [] ∧ ∀ p, p ∈ ps ↔ p ∈ P

/-- Something is found just if nothing is wrong. -/
lemma exists_found_iff {a : Reading α} (h : a.Reports P) : (∃ x, a = found x) ↔ P = ∅ := by
  cases a with
  | found x => exact iff_of_true ⟨x, rfl⟩ h
  | refused ps =>
    refine iff_of_false nofun ?_
    rintro rfl
    obtain ⟨p, mem⟩ := List.exists_mem_of_ne_nil ps h.1
    exact (h.2 p).1 mem

/-- What is wrong is in the set. -/
lemma Reports.mem {ps : List Problem} {p : Problem} (h : (refused ps : Reading α).Reports P)
    (mem : p ∈ ps) : p ∈ P :=
  (h.2 p).1 mem

lemma Reports.map {f : α → β} {a : Reading α} (h : a.Reports P) : (f <$> a).Reports P := by
  cases a with
  | found x => exact h
  | refused ps => exact h

/-- Of two readings both problems are reported. -/
lemma Reports.seq {f : Reading (α → β)} {a : Reading α} (first : f.Reports P)
    (second : a.Reports Q) : (f <*> a).Reports (P ∪ Q) := by
  cases f with
  | found g =>
    obtain rfl : P = ∅ := first
    rw [Set.empty_union]
    cases a with
    | found x => exact second
    | refused qs => exact second
  | refused ps =>
    obtain ⟨some, all⟩ := first
    cases a with
    | found x =>
      obtain rfl : Q = ∅ := second
      rw [Set.union_empty]
      exact ⟨some, all⟩
    | refused qs =>
      refine ⟨by simp [some], ?_⟩
      intro p
      rw [List.mem_append, Set.mem_union, all, second.2]

/-- What is done with what is found adds no problem if it succeeds. -/
lemma Reports.andThen {a : Reading α} {f : α → Reading β} (h : a.Reports P)
    (fine : ∀ x, a = found x → ∃ y, f x = found y) : (a.andThen f).Reports P := by
  cases a with
  | found x =>
    obtain ⟨y, e⟩ := fine x rfl
    rw [Reading.andThen, e]
    exact h
  | refused ps => exact h

/-- From further up the problems are further down. -/
lemma Reports.under {a : Reading α} (h : a.Reports P) :
    (a.under step).Reports (Problem.under step '' P) := by
  cases a with
  | found x =>
    obtain rfl : P = ∅ := h
    exact Set.image_empty _
  | refused ps =>
    obtain ⟨some, all⟩ := h
    refine ⟨by simpa using some, ?_⟩
    intro p
    simp only [List.mem_map, Set.mem_image, all]

/-- Doubles of two parts are doubles of the whole. -/
lemma Reports.both {f : Reading (α → β)} {a : Reading α} (first : f.Reports (j.overflows W))
    (second : a.Reports (j.overflows V)) : (f <*> a).Reports (j.overflows (W ∪ V)) := by
  rw [Json.overflows_union]
  exact first.seq second

/-- Places that are the same report the same. -/
lemma Reports.places {a : Reading α} (h : a.Reports (j.overflows V)) (same : V = W) :
    a.Reports (j.overflows W) :=
  same ▸ h

/-- The doubles of a part are doubles of the whole. -/
lemma Reports.before {a : Reading α} (h : a.Reports (v.overflows W))
    (there : j.down? step = some v) :
    (a.under step).Reports (j.overflows (step.before W)) := by
  rw [Json.overflows_before there]
  exact h.under

end Reading

/-! ## Readers -/

section

variable {α : Type} {r : Reader α} {members : List (String × Json)} {name : String} {j : Json}
  {W : Set (List Step)}

open Reading

/-- A member that must be there reports the doubles in it. -/
lemma Reading.Reports.required (there : ∃ j, members.lookup name = some j)
    (own : ∀ j, members.lookup name = some j → (r j).Reports (j.overflows W)) :
    (Reader.required name r members).Reports
      ((Json.record members).overflows ((Step.member name).before W)) := by
  obtain ⟨j, there⟩ := there
  rw [Reader.required, there]
  exact (own j there).before there

/-- A member that may be left out reports the doubles in it. -/
lemma Reading.Reports.optional {default : α}
    (own : ∀ j, members.lookup name = some j → (r j).Reports (j.overflows W)) :
    (Reader.optional name r default members).Reports
      ((Json.record members).overflows ((Step.member name).before W)) := by
  rw [Reader.optional]
  split
  case h_1 j there => exact (own j there).before there
  case h_2 out => exact Json.overflows_before_of_none out

/-- The items of a list from a position on report the doubles in them. -/
lemma Reading.Reports.items {all items : List Json} {i : Nat} (rest : all.drop i = items)
    (own : ∀ j ∈ items, (r j).Reports (j.overflows W)) :
    (itemsFrom r i items).Reports ((Json.list all).overflows (Step.inItems i W)) := by
  -- the places are those of the whole list, of which the items from the position on are left
  induction items generalizing i with
  | nil =>
    apply Set.eq_empty_of_forall_notMem
    rintro p ⟨-, ⟨k, place, le, mem, e⟩, x, there, -⟩
    have out : all[k]? = none := List.getElem?_eq_none ((List.drop_eq_nil_iff.1 rest).trans le)
    rw [e, Json.part?, Json.down?, out] at there
    cases there
  | cons j items ih =>
    have here : (Json.list all).down? (.item i) = some j := by
      rw [Json.down?, ← List.head?_drop, rest]
      rfl
    have others : all.drop (i + 1) = items := by
      rw [← List.drop_drop, rest]
      rfl
    rw [itemsFrom, Step.inItems_eq]
    apply Reports.both
    · exact ((own j List.mem_cons_self).before here).map
    · exact ih others fun k mem => own k (List.mem_cons_of_mem _ mem)

end

/-! ## Whole doubles -/

section

variable {x : Float} {n : Int}

/-- A double of the kind of integers is an integer. -/
lemma Reader.exists_whole (h : (Json.float x).isOf .integer) : ∃ n, whole? x = some n := by
  simp only [Json.isOf, Bool.and_eq_true, Bool.not_eq_true', decide_eq_true_eq] at h
  obtain ⟨⟨number, finite⟩, whole⟩ := h
  rw [whole?, number, finite, whole]
  exact ⟨_, rfl⟩

/-- The integer that a double is, is the number that it stands for. -/
lemma Reader.cast_of_whole (h : whole? x = some n) : (n : ℚ) = (Binary.ofFloat x).signed := by
  rw [whole?] at h
  split at h
  case isTrue => cases h
  case isFalse fraction =>
    simp only [Bool.or_eq_true, decide_eq_true_eq, not_or, ne_eq, not_not] at fraction
    have some : ((Binary.ofFloat x).denominator : ℚ) ≠ 0 :=
      Nat.cast_ne_zero.2 (Nat.two_pow_pos _).ne'
    have value : (Binary.ofFloat x).value =
        ((Binary.ofFloat x).numerator / (Binary.ofFloat x).denominator : ℕ) := by
      rw [Binary.value_eq, Nat.cast_div (Nat.dvd_of_mod_eq_zero fraction.2) some]
    rw [Binary.signed, value, ← Option.some.inj h]
    split
    case isTrue => rw [Int.cast_neg, Int.cast_natCast]
    case isFalse => rw [Int.cast_natCast]

/-- A double that is an integer is finite. -/
lemma Reader.number_of_whole (h : whole? x = some n) : ¬ (x.isNaN || x.isInf) := by
  intro other
  rw [whole?, other] at h
  cases h

/-- A double that is an integer is read as it within the bounds for doubles. -/
lemma Reader.integer_of_whole (h : whole? x = some n) : integer (.float x) =
    if -2 ^ 63 < n ∧ n < 2 ^ 63 then .found n else Reading.refuse .beyondInteger := by
  rw [integer, if_neg (number_of_whole h), h]

/-- The exact decimal of a double that is an integer writes this integer. -/
lemma Reader.decimal_of_whole (h : whole? x = some n) :
    ∃ d, (Json.float x).decimal? = some d ∧ d.value = n := by
  rw [Json.decimal?, if_neg (number_of_whole h), cast_of_whole h, Binary.signed]
  refine ⟨_, rfl, ?_⟩
  split
  case isTrue => rw [Decimal.value_neg, Binary.value_toDecimal]
  case isFalse => rw [Binary.value_toDecimal]

end

end Inspection
