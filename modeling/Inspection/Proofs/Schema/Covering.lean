import Inspection.Proofs.Document.Overflow
import Inspection.Proofs.Schema.Keeping

/-!
# Schemas that cover readers

A schema `Covers` a reader if all that can be wrong with a value that keeps to the schema are doubles
which are too large for integers, at places that are told. The schemas of single values cover their
readers, and those of lists and records do if the schemas inside do (`Covers.list`,
`Covers.ofMembers`).
-/

namespace Inspection.Schema

open Reader Reading

/-! ## Schemas of single values -/

/-- The schema of texts. -/
def text : Schema :=
  [.kinds [.text]]

/-- The schema of texts that are not empty. -/
def filled : Schema :=
  [.kinds [.text], .minLength 1]

/-- The schema of texts in which a pattern is found; what writes no pattern demands nothing. -/
def like (source : String) : Schema :=
  .kinds [.text] :: ((Text.Pattern.read source).map (.pattern source)).toList

/-- The schema of truth values. -/
def boolean : Schema :=
  [.kinds [.boolean]]

/-- The schema of numbers. -/
def number : Schema :=
  [.kinds [.number]]

/-- The schema of integers. -/
def integer : Schema :=
  [.kinds [.integer]]

/-- The schema of integers that are at least one. -/
def count : Schema :=
  [.kinds [.integer], .minimum (.int 1)]

/-- The schema of a closed choice between words. -/
def wordOf (α : Type) [Keyword α] : Schema :=
  [.oneOf ((Keyword.all (α := α)).map fun a => .text (Keyword.label a))]

/-- The schema that also allows null. -/
def orNull : Schema → Schema
  | .kinds kinds :: rest => .kinds (kinds ++ [.null]) :: rest
  | schema => schema

/-! ## Schemas of lists and records -/

/-- The schema of lists. -/
def list (item : Schema) : Schema :=
  [.kinds [.list], .items 0 item]

/-- The schema of lists that are not empty. -/
def filledList (item : Schema) : Schema :=
  [.kinds [.list], .minItems 1, .items 0 item]

/-- The schema of records with some members, of which some are needed. -/
def record (needed : List String) (members : List (String × Schema)) : Schema :=
  .kinds [.record] ::
    ((if needed = [] then [] else [.required needed]) ++ [.properties members])

section

variable {α : Type} {schema inner : Schema} {r : Reader α} {W : Set (List Step)} {j : Json}
  {ms : List (String × Json)} {name : String} {needed : List String}
  {members : List (String × Schema)}

/-- A record that keeps to a schema has the members that are needed. -/
lemma Keeps.present (keeps : Keeps (record needed members) (.record ms)) (named : name ∈ needed) :
    ∃ j, ms.lookup name = some j := by
  apply keeps.needed _ named
  rw [record, if_neg (List.ne_nil_of_mem named)]
  simp

/-- The members of a record that keeps to a schema keep to their own. -/
lemma Keeps.own (keeps : Keeps (record needed members) (.record ms))
    (mem : (name, inner) ∈ members) (there : ms.lookup name = some j) : Keeps inner j := by
  refine keeps.member ?_ mem there
  simp [record]

/-- What keeps to a schema that also allows null is null or keeps to the schema. -/
lemma eq_null_or_keeps {k : ValueKind} (single : schema.head? = some (.kinds [k]))
    (keeps : Keeps (orNull schema) j) : j = .null ∨ Keeps schema j := by
  obtain ⟨rest, rfl⟩ := List.head?_eq_some_iff.1 single
  obtain ⟨k', mem, own⟩ := keeps.kind List.mem_cons_self
  rcases List.mem_cons.1 mem with rfl | null
  · right
    rw [Keeps, violations, violationsIn_eq_nil] at keeps ⊢
    intro c mem
    -- the schemas differ in their first demand, and in neither is the value of a wrong kind
    rcases List.mem_cons.1 mem with rfl | mem
    · simp [violationsOf, own]
    · have met := keeps c (List.mem_cons_of_mem _ mem)
      simpa [orNull, kindsOf?, fitsKinds, own] using met
  · left
    rw [List.mem_singleton.1 null] at own
    exact Json.eq_null_of_isOf own

/-- All that is wrong with a value that keeps to the schema are doubles at some places that are too
large there for integers. -/
def Covers (schema : Schema) (r : Reader α) (W : Set (List Step)) : Prop :=
  ∀ j : Json, j.InRange → Keeps schema j → (r j).Reports (j.overflows W)

/-! ## Readers of single values -/

/-- A reader that finds something in all values of a schema is covered by it. -/
lemma Covers.of_found (found : ∀ j : Json, j.InRange → Keeps schema j → ∃ a, r j = found a) :
    Covers schema r ∅ := by
  intro j range keeps
  obtain ⟨a, read⟩ := found j range keeps
  rw [read, Json.overflows_empty]
  rfl

/-- What can only be a text can be read as one. -/
lemma Covers.ofTexts (only : .kinds [.text] ∈ schema) : Covers schema Reader.text ∅ := by
  apply Covers.of_found
  intro j _ keeps
  obtain ⟨s, rfl⟩ := Json.eq_text_of_isOf (keeps.only only)
  exact ⟨s, rfl⟩

/-- What is a text can be read as one. -/
lemma covers_text : Covers text Reader.text ∅ :=
  .ofTexts List.mem_cons_self

/-- What is a text that is not empty can be read as one. -/
lemma covers_filled : Covers filled Reader.text ∅ :=
  .ofTexts List.mem_cons_self

/-- What is a text like a pattern can be read as one. -/
lemma covers_like {source : String} : Covers (like source) Reader.text ∅ :=
  .ofTexts List.mem_cons_self

/-- What is a truth value can be read as one. -/
lemma covers_boolean : Covers boolean Reader.boolean ∅ := by
  apply Covers.of_found
  intro j _ keeps
  obtain ⟨b, rfl⟩ := Json.eq_bool_of_isOf (keeps.only List.mem_cons_self)
  exact ⟨b, rfl⟩

/-- What is a number within the range of the doubles can be read as one. -/
lemma covers_number : Covers number Reader.number ∅ := by
  apply Covers.of_found
  intro j range keeps
  rcases Json.eq_number_of_isOf (keeps.only List.mem_cons_self) with ⟨n, rfl⟩ | ⟨x, rfl⟩
  · cases range with
    | int near =>
      obtain ⟨x, near⟩ := Option.isSome_iff_exists.1 near
      exact ⟨x, by rw [Reader.number, near]⟩
  · exact ⟨x, rfl⟩

/-- A word of a closed choice can be read as one. -/
lemma covers_wordOf [Keyword α] : Covers (wordOf α) (keyword : Reader α) ∅ := by
  apply Covers.of_found
  intro j _ keeps
  obtain ⟨v, listed, same⟩ := keeps.choice List.mem_cons_self
  obtain ⟨a, mem, rfl⟩ := List.mem_map.1 listed
  obtain rfl := Json.eq_of_same_text same
  have known : (Keyword.all.find? fun b : α => Keyword.label b = Keyword.label a).isSome := by
    rw [List.find?_isSome]
    exact ⟨a, mem, decide_eq_true rfl⟩
  obtain ⟨b, known⟩ := Option.isSome_iff_exists.1 known
  exact ⟨b, by rw [keyword, known]⟩

/-- What is wrong with an integer is that it is a double which is too large. -/
lemma reports_integer (own : j.isOf .integer) :
    (Reader.integer j).Reports (j.overflows {[]}) := by
  rcases Json.eq_integer_of_isOf own with ⟨n, rfl⟩ | ⟨x, rfl, own⟩
  · apply Set.eq_empty_of_forall_notMem
    rintro p ⟨-, here, x, there, -⟩
    rw [Set.mem_singleton_iff.1 here] at there
    cases there
  · obtain ⟨n, whole⟩ := exists_whole own
    have large : (Json.float x).Oversized [] ↔ ¬ (-2 ^ 63 < n ∧ n < 2 ^ 63) := by
      rw [← abs_lt, not_lt]
      constructor
      · rintro ⟨_, ⟨rfl⟩, large⟩
        rw [← cast_of_whole whole] at large
        exact_mod_cast large
      · intro large
        refine ⟨x, rfl, ?_⟩
        rw [← cast_of_whole whole]
        exact_mod_cast large
    rw [integer_of_whole whole]
    split
    case isTrue within =>
      apply Set.eq_empty_of_forall_notMem
      rintro p ⟨-, here, beyond⟩
      rw [Set.mem_singleton_iff.1 here, large] at beyond
      exact beyond within
    case isFalse beyond =>
      refine ⟨List.cons_ne_nil _ _, ?_⟩
      rintro ⟨place, mismatch⟩
      constructor
      · intro mem
        cases List.mem_singleton.1 mem
        exact ⟨rfl, rfl, large.2 beyond⟩
      · rintro ⟨rfl, rfl, -⟩
        exact List.mem_cons_self

/-- What is an integer can be read as one unless it is a double that is too large. -/
lemma covers_integer : Covers integer Reader.integer {[]} :=
  fun _ _ keeps => reports_integer (keeps.only List.mem_cons_self)

/-- What is not below one has a decimal that is not. -/
lemma one_le_value {d : Decimal} (least : numbersHold (· ≤ ·) (.int 1) j)
    (decimal : j.decimal? = some d) : 1 ≤ d.value := by
  rw [numbersHold, decimal] at least
  have le := Decimal.le_iff_value.1 (of_decide_eq_true least)
  rwa [Decimal.value, zpow_zero, mul_one, Int.cast_one] at le

/-- An integer that is read of what is not below one is positive. -/
lemma pos_of_integer {n : ℤ} (own : j.isOf .integer) (least : numbersHold (· ≤ ·) (.int 1) j)
    (read : Reader.integer j = found n) : 0 < n := by
  have value : ∃ d, j.decimal? = some d ∧ d.value = n := by
    rcases Json.eq_integer_of_isOf own with ⟨m, rfl⟩ | ⟨x, rfl, own⟩
    · cases read
      exact ⟨⟨n, 0⟩, rfl, by rw [Decimal.value, zpow_zero, mul_one]⟩
    · obtain ⟨m, whole⟩ := exists_whole own
      rw [integer_of_whole whole] at read
      split at read
      case isTrue =>
        cases read
        exact decimal_of_whole whole
      case isFalse => cases read
  obtain ⟨d, decimal, value⟩ := value
  have le := one_le_value least decimal
  rw [value] at le
  exact_mod_cast le

/-- What is at least one can be read as a count unless it is a double that is too large. -/
lemma covers_count : Covers count Reader.count {[]} := by
  intro j _ keeps
  have own := keeps.only List.mem_cons_self
  have least := keeps.least (List.mem_cons_of_mem _ List.mem_cons_self)
  apply (reports_integer own).andThen
  intro n read
  have positive := pos_of_integer own least read
  exact ⟨⟨n.toNat, by omega⟩, dif_pos (by omega)⟩

/-- What may be null can be read if it can where it is not. -/
lemma Covers.orNull {k : ValueKind} (covers : Covers schema r W)
    (single : schema.head? = some (.kinds [k])) : Covers (orNull schema) (nullable r) W := by
  intro j range keeps
  unfold nullable
  split
  case h_1 =>
    apply Set.eq_empty_of_forall_notMem
    rintro ⟨place, mismatch⟩ ⟨-, -, x, there, -⟩
    cases place <;> cases there
  case h_2 some =>
    exact (covers j range ((eq_null_or_keeps single keeps).resolve_left some)).map

/-! ## Readers of lists and records -/

/-- The items of a list can be read as those of their schema can. -/
lemma Covers.ofItems (covers : Covers inner r W) (only : .kinds [.list] ∈ schema)
    (items : .items 0 inner ∈ schema) : Covers schema (Reader.list r) (Step.inItems 0 W) := by
  intro j range keeps
  obtain ⟨all, rfl⟩ := Json.eq_list_of_isOf (keeps.only only)
  apply Reports.items rfl
  intro j mem
  exact covers j (Json.inRange_list.1 range j mem) (keeps.item items mem)

/-- A list can be read as its items can. -/
lemma Covers.list (covers : Covers inner r W) :
    Covers (list inner) (Reader.list r) (Step.inItems 0 W) :=
  covers.ofItems (by simp [Schema.list]) (by simp [Schema.list])

/-- A list that is not empty can be read as its items can. -/
lemma Covers.filledList (covers : Covers inner r W) :
    Covers (filledList inner) (Reader.list r) (Step.inItems 0 W) :=
  covers.ofItems (by simp [Schema.filledList]) (by simp [Schema.filledList])

/-- A record can be read as its members can. -/
lemma Covers.ofMembers {kind : String} {read : List (String × Json) → Reading α}
    (own : ∀ ms, (Json.record ms).InRange → Keeps (record needed members) (.record ms) →
      (read ms).Reports ((Json.record ms).overflows W)) :
    Covers (record needed members) (model kind read) W := by
  intro j range keeps
  obtain ⟨ms, rfl⟩ := Json.eq_record_of_isOf (keeps.only List.mem_cons_self)
  exact own ms range keeps

/-- A member that is needed can be read as its schema's values can. -/
lemma Covers.required (covers : Covers inner r W) (range : (Json.record ms).InRange)
    (keeps : Keeps (record needed members) (.record ms)) (named : name ∈ needed)
    (mem : (name, inner) ∈ members) :
    (Reader.required name r ms).Reports ((Json.record ms).overflows ((Step.member name).before W)) :=
  Reports.required (keeps.present named) fun j there =>
    covers j (range.member there) (keeps.own mem there)

/-- A member that may be left out can be read as its schema's values can. -/
lemma Covers.optional {default : α} (covers : Covers inner r W) (range : (Json.record ms).InRange)
    (keeps : Keeps (record needed members) (.record ms)) (mem : (name, inner) ∈ members) :
    (Reader.optional name r default ms).Reports
      ((Json.record ms).overflows ((Step.member name).before W)) :=
  Reports.optional fun j there => covers j (range.member there) (keeps.own mem there)

/-- A member that may be left out or null can be read as its schema's values can. -/
lemma Covers.absentable {k : ValueKind} (covers : Covers schema r W)
    (single : schema.head? = some (.kinds [k])) (range : (Json.record ms).InRange)
    (keeps : Keeps (record needed members) (.record ms)) (mem : (name, schema.orNull) ∈ members) :
    (Reader.absentable name r ms).Reports
      ((Json.record ms).overflows ((Step.member name).before W)) :=
  (covers.orNull single).optional range keeps mem

end

end Inspection.Schema
