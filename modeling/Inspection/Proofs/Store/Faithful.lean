import Inspection.Proofs.Json.Integers
import Inspection.Proofs.Session.Answers

/-!
# Faithful storage

Which batches a directory keeps as they are. The counts of a batch that some document describes have
no more digits than are read, since the integers of documents have none more
(`Batch.Valid.short`), so such a batch is loaded as it was stored just if all its numbers are finite
(`batch_of_save_valid`).
-/

namespace Inspection

open Decimal Reader Reading

/-! ## Counts that are read -/

namespace Reader

variable {α : Type} {r : Reader α} {ms : List (String × Json)} {j : Json}

/-- What describes something of a kind is a record. -/
lemma model_eq_found {kind : String} {read : List (String × Json) → Reading α} {a : α} :
    model kind read j = found a ↔ ∃ ms, j = .record ms ∧ read ms = found a := by
  cases j <;> simp [model, refuse]

/-- A member that must be there and is read where the integers are short is. -/
lemma short_of_required {name : String} {a : α} (short : ∀ m ∈ ms, m.2.Short)
    (h : required name r ms = found a) : ∃ j, j.Short ∧ r j = found a := by
  obtain ⟨j, there, own⟩ := required_eq_found.1 h
  exact ⟨j, short _ (mem_of_lookup there), own⟩

/-- The items of a list that may be left out are as such items are where the integers are short. -/
lemma forall_of_optional_list {name : String} {as : List α} {P : α → Prop}
    (short : ∀ m ∈ ms, m.2.Short) (h : optional name (list r) [] ms = found as)
    (own : ∀ j a, j.Short → r j = found a → P a) : ∀ a ∈ as, P a := by
  cases there : ms.lookup name with
  | none =>
    rw [optional, there] at h
    cases h
    exact List.forall_mem_nil _
  | some j =>
    rw [optional_eq_found there] at h
    cases short _ (mem_of_lookup there) with
    | list all =>
      intro a mem
      obtain ⟨j, here, read⟩ := exists_mem_of_forall₂ (list_eq_found.1 h) mem
      exact own j a (all j here) read
    | null | bool | int _ | float | text | record _ => cases h

end Reader

/-- The index of a sample that is read where the integers are short is short. -/
lemma SampleResult.short_of_read {j : Json} {s : SampleResult} (short : j.Short)
    (h : SampleResult.read j = found s) : digitCount s.sample.index.val ≤ maxIntegerDigits := by
  rw [SampleResult.read, model_eq_found] at h
  obtain ⟨ms, rfl, h⟩ := h
  simp only [Sample.readMembers, seq_eq_found, map_eq_found] at h
  obtain ⟨_, _, ⟨_, _, ⟨_, _, ⟨_, sample, rfl⟩, -, rfl⟩, -, rfl⟩, -, rfl⟩ := h
  obtain ⟨_, _, ⟨_, _, ⟨_, _, ⟨index, read, rfl⟩, -, rfl⟩, -, rfl⟩, -, rfl⟩ := sample
  cases short with
  | record all =>
    obtain ⟨j, short, read⟩ := short_of_required all read
    exact short_of_count short read

/-- The indices in a result that is read where the integers are short are short. -/
lemma Result.short_of_read {j : Json} {r : Result} (short : j.Short)
    (h : Result.read j = found r) :
    ∀ s ∈ r.samples, digitCount s.sample.index.val ≤ maxIntegerDigits := by
  rw [Result.read, model_eq_found] at h
  obtain ⟨ms, rfl, h⟩ := h
  simp only [seq_eq_found, map_eq_found] at h
  obtain ⟨_, _, ⟨_, _, ⟨_, samples, ⟨_, _, ⟨_, _, ⟨_, _, ⟨_, _, ⟨_, -, rfl⟩, -, rfl⟩, -, rfl⟩, -,
    rfl⟩, -, rfl⟩, read, rfl⟩, -, rfl⟩, -, rfl⟩ := h
  cases short with
  | record all => exact forall_of_optional_list all read fun _ _ => SampleResult.short_of_read

namespace Batch

/-- The counts of a batch that is read where the integers are short are short. -/
lemma short_of_read {j : Json} {b : Batch} (short : j.Short) (h : Batch.read j = found b) :
    ∀ c ∈ b.counts, digitCount c.val ≤ maxIntegerDigits := by
  rw [Batch.read, model_eq_found] at h
  obtain ⟨ms, rfl, h⟩ := h
  simp only [seq_eq_found, map_eq_found] at h
  obtain ⟨_, _, ⟨_, _, ⟨_, _, ⟨_, _, ⟨_, results, ⟨_, _, ⟨_, _, ⟨_, count, ⟨_, _,
    ⟨_, _, ⟨_, -, rfl⟩, -, rfl⟩, -, rfl⟩, count_read, rfl⟩, -, rfl⟩,
    -, rfl⟩, results_read, rfl⟩, -, rfl⟩, -, rfl⟩, -, rfl⟩, -, rfl⟩ := h
  cases short with
  | record all =>
    have results := forall_of_optional_list all results_read fun _ _ => Result.short_of_read
    obtain ⟨j, short, count_read⟩ := short_of_required all count_read
    simp only [counts, List.forall_mem_cons, List.forall_mem_flatMap, List.forall_mem_map]
    exact ⟨short_of_count short count_read, results⟩

/-- A valid batch: some document describes it. -/
def Valid (b : Batch) : Prop :=
  ∃ text j, Json.read text = .ok j ∧ Batch.read j = found b

/-- The counts of a valid batch are short. -/
lemma Valid.short {b : Batch} (valid : b.Valid) :
    ∀ c ∈ b.counts, digitCount c.val ≤ maxIntegerDigits := by
  obtain ⟨text, j, written, read⟩ := valid
  exact short_of_read (Json.short_of_read written) read

/-- A durable batch is valid: its own document describes it. -/
lemma valid_of_durable {b : Batch} (durable : b.Durable) : b.Valid := by
  obtain ⟨j, back, read⟩ := b.gives_json.2 durable
  exact ⟨_, j, (Json.read_document b.distinct_json).trans back, read⟩

end Batch

/-- A valid batch that was stored in a directory is loaded as it was just if all its numbers are
finite. -/
theorem Session.batch_of_save_valid {s s' : Session} {b : Batch} {root : Path}
    (place : s.store = .directory root) (valid : b.Valid) (h : s.save b = .ok s') :
    s'.batch b.id = .ok b ↔ ∀ x ∈ b.numbers, x.isFinite := by
  rw [batch_of_save_directory place h, Batch.gives_json, Batch.durable_iff]
  exact and_iff_left valid.short

namespace Plate

/-- A batch with finite numbers is put on the shelf, and loaded as it was. -/
theorem batch_of_save_plates : ∃ s s' : Session, s.store = .directory ⟨true, ["shelf"]⟩ ∧
    saved.Valid ∧ s.save saved = .ok s' ∧ s'.batch saved.id = .ok saved := by
  obtain ⟨s, stored⟩ := save_shelf 2
  obtain ⟨s', again⟩ := Session.storable_again stored saved rfl
  have place := place_shelf stored
  have valid : saved.Valid := Batch.valid_of_durable (by decide)
  exact ⟨s, s', place, valid, again, (Session.batch_of_save_valid place valid again).2 (by decide)⟩

end Plate

end Inspection
