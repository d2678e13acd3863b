import Inspection.Schema.Basic
import Mathlib.Tactic.Lemma

/-!
# Keeping to schemas

A value `Keeps` to a schema if it falls short of none of its demands, and then nothing is reported of
it (`violation?_eq_none_iff`). What each demand that a value meets says of the value is drawn from
the whole schema by naming the demand (`Keeps.kind`, `Keeps.member`, `Keeps.item`).
-/

namespace Inspection

namespace Json

variable {j : Json}

/-- What is of the kind of texts is a text. -/
lemma eq_text_of_isOf (h : j.isOf .text) : ∃ s, j = .text s := by
  cases j with
  | text s => exact ⟨s, rfl⟩
  | null | bool | int | float | list | record => cases h

/-- What is of the kind of nulls is null. -/
lemma eq_null_of_isOf (h : j.isOf .null) : j = .null := by
  cases j with
  | null => rfl
  | text | bool | int | float | list | record => cases h

/-- What is of the kind of truth values is one. -/
lemma eq_bool_of_isOf (h : j.isOf .boolean) : ∃ b, j = .bool b := by
  cases j with
  | bool b => exact ⟨b, rfl⟩
  | null | text | int | float | list | record => cases h

/-- What is of the kind of lists is a list. -/
lemma eq_list_of_isOf (h : j.isOf .list) : ∃ items, j = .list items := by
  cases j with
  | list items => exact ⟨items, rfl⟩
  | null | text | bool | int | float | record => cases h

/-- What is of the kind of records is a record. -/
lemma eq_record_of_isOf (h : j.isOf .record) : ∃ members, j = .record members := by
  cases j with
  | record members => exact ⟨members, rfl⟩
  | null | text | bool | int | float | list => cases h

/-- What is of the kind of numbers is an integer or a double. -/
lemma eq_number_of_isOf (h : j.isOf .number) : (∃ n, j = .int n) ∨ ∃ x, j = .float x := by
  cases j with
  | int n => exact .inl ⟨n, rfl⟩
  | float x => exact .inr ⟨x, rfl⟩
  | null | text | bool | list | record => cases h

/-- What is of the kind of integers is an integer or a double that could be of that kind. -/
lemma eq_integer_of_isOf (h : j.isOf .integer) :
    (∃ n, j = .int n) ∨ ∃ x, j = .float x ∧ (float x).isOf .integer := by
  cases j with
  | int n => exact .inl ⟨n, rfl⟩
  | float x => exact .inr ⟨x, rfl, h⟩
  | null | text | bool | list | record => cases h

/-- What equals a text is that text. -/
lemma eq_of_same_text {s : String} (h : j.same (.text s)) : j = .text s := by
  cases j with
  | text t =>
    rw [same, decide_eq_true_eq] at h
    rw [h]
  | null | bool | int | float | list | record => simp [same, decimal?] at h

end Json

namespace Schema

variable {schema inner : Schema} {j : Json} {members : List (String × Json)} {items : List Json}
  {name : String}

/-- A condition demands nothing just if it holds. -/
@[simp] lemma demand_eq_nil {fitsKind holds : Bool} {s : Shortfall} :
    demand fitsKind holds s = [] ↔ holds = true := by
  cases holds <;> simp [demand]

/-- The value falls short of no demand of the schema. -/
def Keeps (schema : Schema) (j : Json) : Prop :=
  violations schema j = []

/-- A value falls short of no demand of a list just if it does not of any of them. -/
lemma violationsIn_eq_nil {kinds : Option (List ValueKind)} {demands : List Constraint} :
    violationsIn kinds demands j = [] ↔
      ∀ c ∈ demands, violationsOf (fitsKinds kinds j) c j = [] := by
  induction demands with
  | nil => simp [violationsIn]
  | cons c rest ih => rw [violationsIn, List.append_eq_nil_iff, ih, List.forall_mem_cons]

/-- A value that keeps to a schema meets each demand of it. -/
lemma Keeps.meets (keeps : Keeps schema j) {c : Constraint} (mem : c ∈ schema) :
    violationsOf (fitsKinds (kindsOf? schema) j) c j = [] :=
  violationsIn_eq_nil.1 keeps c mem

/-- Nothing is reported of a value just if it keeps to the schema. -/
lemma violation?_eq_none_iff : violation? schema j = none ↔ Keeps schema j := by
  rw [violation?, Keeps]
  cases violations schema j with
  | nil => simp [Violation.reported?]
  | cons v rest => simp [Violation.reported?]

/-- A value that keeps to a schema is of one of the kinds that it asks for. -/
lemma Keeps.kind (keeps : Keeps schema j) {kinds : List ValueKind} (mem : .kinds kinds ∈ schema) :
    ∃ k ∈ kinds, j.isOf k := by
  have met := keeps.meets mem
  rwa [violationsOf, demand_eq_nil, List.any_eq_true] at met

/-- A value that keeps to a schema of one kind is of that kind. -/
lemma Keeps.only (keeps : Keeps schema j) {k : ValueKind} (mem : .kinds [k] ∈ schema) :
    j.isOf k := by
  obtain ⟨k', only, own⟩ := keeps.kind mem
  rwa [List.mem_singleton.1 only] at own

/-- A value that keeps to a schema is one of those that it lists. -/
lemma Keeps.choice (keeps : Keeps schema j) {values : List Json} (mem : .oneOf values ∈ schema) :
    ∃ v ∈ values, j.same v := by
  have met := keeps.meets mem
  rwa [violationsOf, demand_eq_nil, List.any_eq_true] at met

/-- A value that keeps to a schema is the one that it fixes. -/
lemma Keeps.fixed (keeps : Keeps schema j) {value : Json} (mem : .constant value ∈ schema) :
    j.same value := by
  have met := keeps.meets mem
  rwa [violationsOf, demand_eq_nil] at met

/-- A number that keeps to a schema is not below its least one. -/
lemma Keeps.least (keeps : Keeps schema j) {least : Json} (mem : .minimum least ∈ schema) :
    numbersHold (· ≤ ·) least j := by
  have met := keeps.meets mem
  rwa [violationsOf, demand_eq_nil] at met

/-- A record that keeps to a schema has the members that it asks for. -/
lemma Keeps.needed (keeps : Keeps schema (.record members)) {names : List String}
    (mem : .required names ∈ schema) (named : name ∈ names) :
    ∃ j, members.lookup name = some j := by
  have met := keeps.meets mem
  rw [violationsOf, List.flatMap_eq_nil_iff] at met
  obtain ⟨⟨k, v⟩, there, same⟩ := List.any_eq_true.1 (demand_eq_nil.1 (met name named))
  obtain rfl : k = name := of_decide_eq_true same
  cases found : members.lookup k with
  | some j => exact ⟨j, rfl⟩
  | none => exact absurd (List.lookup_eq_none_iff.1 found _ there) (by simp)

/-- The members of a record fall short of nothing just if each of them keeps to its schema. -/
lemma ofProperties_eq_nil {schemas : List (String × Schema)} :
    ofProperties schemas members = [] ↔
      ∀ m ∈ schemas, ∀ j, members.lookup m.1 = some j → Keeps m.2 j := by
  induction schemas with
  | nil => simp [ofProperties]
  | cons m rest ih =>
    obtain ⟨n, own⟩ := m
    rw [ofProperties, List.append_eq_nil_iff, ih, List.forall_mem_cons]
    cases members.lookup n with
    | none => simp
    | some j => simp [Keeps, violations]

/-- The members of a record that keeps to a schema keep to their schemas in it. -/
lemma Keeps.member (keeps : Keeps schema (.record members)) {schemas : List (String × Schema)}
    (mem : .properties schemas ∈ schema) (own : (name, inner) ∈ schemas)
    (there : members.lookup name = some j) : Keeps inner j := by
  have met := keeps.meets mem
  rw [violationsOf, ofProperties_eq_nil] at met
  exact met _ own j there

/-- The items of a list fall short of nothing just if none of them does. -/
lemma ofItems_eq_nil {check : Json → List Violation} {i : Nat} :
    ofItems check i items = [] ↔ ∀ j ∈ items, check j = [] := by
  induction items generalizing i with
  | nil => simp [ofItems]
  | cons item rest ih =>
    rw [ofItems, List.append_eq_nil_iff, ih, List.forall_mem_cons, List.map_eq_nil_iff]

/-- The items of a list that keeps to a schema keep to their schema in it. -/
lemma Keeps.item (keeps : Keeps schema (.list items)) (mem : .items 0 inner ∈ schema)
    (here : j ∈ items) : Keeps inner j := by
  have met := keeps.meets mem
  rw [violationsOf, ofItems_eq_nil] at met
  exact met j here

end Schema

end Inspection
