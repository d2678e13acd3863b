import Inspection.Document.Writing
import Inspection.Proofs.Json.Documents

/-!
# Reading the parts of documents

When a part of a document is found. A member is found just if it is there and can be read
(`required_eq_found`, `optional_eq_found`), and a list just if each of its items can
(`list_eq_found`). Of a document that was stored the members are found that were written, as what
comes back of them (`required_back`, `optional_back`).
-/

namespace Inspection

open Reading

/-! ## Distinct names -/

namespace Json

/-- The parts of a list have distinct names if each of them has. -/
lemma distinct_ofList {α : Type} {f : α → Json} (h : ∀ a, (f a).Distinct) (as : List α) :
    (ofList f as).Distinct := by
  rw [ofList, Distinct]
  induction as with
  | nil => trivial
  | cons a rest ih => exact ⟨h a, ih⟩

/-- What may be missing has distinct names if it has them where it is there. -/
lemma distinct_ofOption {α : Type} {f : α → Json} (h : ∀ a, (f a).Distinct) (x : Option α) :
    (ofOption f x).Distinct := by
  cases x with
  | none => trivial
  | some a => exact h a

/-- A double that may be missing has no names. -/
lemma distinct_ofFloat? (x : Option Float) : (ofFloat? x).Distinct := by
  cases x <;> trivial

/-- A truth value that may be missing has no names. -/
lemma distinct_ofBool? (x : Option Bool) : (ofBool? x).Distinct := by
  cases x <;> trivial

/-- A text that may be missing has no names. -/
lemma distinct_ofText? (x : Option String) : (ofText? x).Distinct := by
  cases x <;> trivial

/-- A table of doubles has the names of the table. -/
lemma distinct_table (t : Table Float) : (record (t.map float).entries).Distinct := by
  refine ⟨(t.map float).distinct, ?_⟩
  rw [Table.map]
  dsimp only
  induction t.entries with
  | nil => trivial
  | cons entry rest ih => exact ⟨trivial, ih⟩

end Json

/-! ## Members and items -/

namespace Json

variable {ms ms' : List (String × Json)} {name : String} {j : Json}

/-- What comes back of items is what comes back of each. -/
lemma readBackItems_eq (items : List Json) : readBackItems items = items.mapM readBack := by
  induction items with
  | nil => rfl
  | cons item rest ih => rw [readBackItems, List.mapM_cons, ih]

/-- A member comes back under its name. -/
lemma lookup_back (back : readBackMembers ms = .ok ms') (there : ms.lookup name = some j) :
    ∃ j', ms'.lookup name = some j' ∧ readBack j = .ok j' := by
  induction ms generalizing ms' with
  | nil => cases there
  | cons member rest ih =>
    obtain ⟨k, v⟩ := member
    obtain ⟨v', hv, back⟩ := bind_eq_ok.1 back
    obtain ⟨rest', further, e⟩ := bind_eq_ok.1 back
    cases pure_eq_ok.1 e
    rw [List.lookup_cons] at there ⊢
    split at there
    case h_1 =>
      obtain rfl := Option.some.inj there
      exact ⟨_, rfl, hv⟩
    case h_2 => exact ih further there

/-- A name that was not written does not come back. -/
lemma lookup_back_none (back : readBackMembers ms = .ok ms') (out : ms.lookup name = none) :
    ms'.lookup name = none := by
  induction ms generalizing ms' with
  | nil =>
    cases back
    rfl
  | cons member rest ih =>
    obtain ⟨k, v⟩ := member
    obtain ⟨v', hv, back⟩ := bind_eq_ok.1 back
    obtain ⟨rest', further, e⟩ := bind_eq_ok.1 back
    cases pure_eq_ok.1 e
    rw [List.lookup_cons] at out ⊢
    split at out
    case h_1 => cases out
    case h_2 => exact ih further out

/-- What comes back of a record is one of the members that come back. -/
lemma record_back (back : (record ms).readBack = .ok j) :
    ∃ ms', readBackMembers ms = .ok ms' ∧ j = record ms' := by
  rw [readBack] at back
  obtain ⟨ms', h, e⟩ := bind_eq_ok.1 back
  exact ⟨ms', h, (pure_eq_ok.1 e).symm⟩

end Json

namespace Reader

variable {α β : Type} {r : Reader α} {a : α} {ms ms' : List (String × Json)} {name : String}
  {j j' : Json}

/-- A member is one of the record's. -/
lemma mem_of_lookup (h : ms.lookup name = some j) : (name, j) ∈ ms := by
  obtain ⟨before, after, rfl, -⟩ := List.lookup_eq_some_iff.1 h
  simp

/-- A reading is the same from further up, but for where its problems are. -/
@[simp] lemma under_eq_found {step : Step} {x : Reading α} :
    x.under step = found a ↔ x = found a := by
  cases x with
  | found b => rfl
  | refused ps => simp [Reading.under]

/-- A member that must be there is found just if it is and can be read. -/
lemma required_eq_found :
    required name r ms = found a ↔ ∃ j, ms.lookup name = some j ∧ r j = found a := by
  rw [required]
  cases ms.lookup name with
  | none => simp [refuse, Reading.under]
  | some j => simp

/-- A member that is there is found just if it can be read. -/
lemma optional_eq_found {default : α} (there : ms.lookup name = some j) :
    optional name r default ms = found a ↔ r j = found a := by
  rw [optional, there, under_eq_found]

/-- A part that may be null is found if it is null, and otherwise just if it can be read. -/
lemma nullable_eq_found {x : Option α} (h : nullable r j = found x) :
    j = .null ∧ x = none ∨ ∃ a, x = some a ∧ r j = found a := by
  unfold nullable at h
  split at h
  case h_1 => exact .inl ⟨rfl, (Reading.found.inj h).symm⟩
  case h_2 =>
    obtain ⟨a, own, e⟩ := map_eq_found.1 h
    exact .inr ⟨a, e.symm, own⟩

/-- Items of a list are found just if each of them can be read. -/
lemma itemsFrom_eq_found {i : Nat} {items : List Json} {as : List α} :
    itemsFrom r i items = found as ↔ List.Forall₂ (fun j a => r j = found a) items as := by
  induction items generalizing i as with
  | nil => simp [itemsFrom, eq_comm]
  | cons j rest ih =>
    rw [itemsFrom, seq_eq_found, List.forall₂_cons_left_iff]
    simp only [map_eq_found, under_eq_found, ih]
    constructor
    · rintro ⟨_, as', ⟨a, own, rfl⟩, further, rfl⟩
      exact ⟨a, as', own, further, rfl⟩
    · rintro ⟨a, as', own, further, rfl⟩
      exact ⟨_, as', ⟨a, own, rfl⟩, further, rfl⟩

/-- A list is found just if each of its items can be read. -/
lemma list_eq_found {items : List Json} {as : List α} :
    list r (.list items) = found as ↔ List.Forall₂ (fun j a => r j = found a) items as :=
  itemsFrom_eq_found

/-- A member that must be there and was written is found as what comes back of it. -/
lemma required_back (back : Json.readBackMembers ms = .ok ms') (there : ms.lookup name = some j)
    (h : required name r ms' = found a) : ∃ j', j.readBack = .ok j' ∧ r j' = found a := by
  obtain ⟨j', there', own⟩ := Json.lookup_back back there
  obtain ⟨j'', same, read⟩ := required_eq_found.1 h
  rw [there'] at same
  exact ⟨j'', Option.some.inj same ▸ own, read⟩

/-- A member that may be left out but was written is found as what comes back of it. -/
lemma optional_back {default : α} (back : Json.readBackMembers ms = .ok ms')
    (there : ms.lookup name = some j) (h : optional name r default ms' = found a) :
    ∃ j', j.readBack = .ok j' ∧ r j' = found a := by
  obtain ⟨j', there', own⟩ := Json.lookup_back back there
  exact ⟨j', own, (optional_eq_found there').1 h⟩

/-- A list that was written is found as what comes back of its items. -/
lemma list_back {f : β → Json} {bs : List β} {as : List α}
    (back : (Json.ofList f bs).readBack = .ok j) (h : list r j = found as) :
    List.Forall₂ (fun b a => ∃ j, (f b).readBack = .ok j ∧ r j = found a) bs as := by
  rw [Json.ofList, Json.readBack] at back
  obtain ⟨items, own, e⟩ := bind_eq_ok.1 back
  obtain rfl := pure_eq_ok.1 e
  rw [Json.readBackItems_eq, List.mapM_map, mapM_eq_ok] at own
  replace h := list_eq_found.1 h
  clear back e
  induction own generalizing as with
  | nil =>
    cases h
    exact .nil
  | cons hb _ ih =>
    cases h with
    | cons ha h => exact .cons ⟨_, hb, ha⟩ (ih h)

/-! ## Single values -/

/-- A text that was written is found as itself. -/
lemma text_back {s : String} {x : String} (back : (Json.text s).readBack = .ok j)
    (h : text j = found x) : x = s := by
  cases back
  exact (Reading.found.inj h).symm

/-- A truth value that may be missing is found as itself. -/
lemma boolean_back {x y : Option Bool} (back : (Json.ofBool? x).readBack = .ok j)
    (h : nullable boolean j = found y) : y = x := by
  cases x with
  | none =>
    cases back
    exact (Reading.found.inj h).symm
  | some b =>
    cases back
    exact (Reading.found.inj h).symm

/-- A count that was written is found as itself. -/
lemma count_back {c d : Count} (back : (Json.ofCount c).readBack = .ok j)
    (h : count j = found d) : d = c := by
  rw [Json.ofCount, Json.readBack] at back
  split at back
  case isTrue => cases back
  case isFalse =>
    cases back
    have some : 0 < ((c.val : Int)).toNat := c.property
    rw [count, integer, andThen, dif_pos some] at h
    exact (Reading.found.inj h).symm

/-- A closed choice whose words are told apart is found as itself. -/
lemma keyword_back [Keyword β] {a b : β}
    (apart : ∀ b : β, keyword (Keyword.json b) = found b)
    (back : (Keyword.json a).readBack = .ok j) (h : keyword j = found b) : b = a := by
  cases back
  exact (Reading.found.inj ((apart a).symm.trans h)).symm

/-- Whether a part that may be missing is there is found as it was. -/
lemma isSome_back {f : β → Json} {x : Option β} {y : Option α} (some : ∀ b, ∃ s, f b = .text s)
    (back : (Json.ofOption f x).readBack = .ok j) (h : nullable r j = found y) :
    y.isSome = x.isSome := by
  cases x with
  | none =>
    cases back
    cases h
    rfl
  | some b =>
    obtain ⟨s, e⟩ := some b
    rw [Json.ofOption, e] at back
    cases back
    rcases nullable_eq_found h with ⟨null, -⟩ | ⟨a, rfl, -⟩
    · cases null
    · rfl

end Reader

end Inspection
