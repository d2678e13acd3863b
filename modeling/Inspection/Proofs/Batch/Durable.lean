import Inspection.Proofs.Batch.Writing
import Inspection.Proofs.Document.Survival

/-!
# Durable batches

The numbers and the counts of a batch, and that it is read from its document just if the numbers are
finite and the counts have no more digits than are read (`Batch.gives_json`).

A result that is stored may lose the numbers that are not finite, but only once. A result is read as
itself just if it is durable (`Result.eq_iff_of_gives`), and what was read of a document is durable
(`Result.durable_of_gives`, `Batch.durable_of_gives`).
-/

namespace Inspection

open Reading Reader Json

/-! ## The numbers and counts of a batch -/

/-- The numbers that were taken down of a sample. -/
def Sample.numbers (s : Sample) : List Float :=
  s.single.toList ++ s.pair.toList.flatMap fun p => [p.before, p.after]

/-- The numbers of a sample, taken down or computed. -/
def SampleResult.numbers (s : SampleResult) : List Float :=
  s.sample.numbers ++ s.evaluated.toList ++ s.values.filterMap SampleValue.value

/-- The numbers of a result, handed in or computed. -/
def Result.numbers (r : Result) : List Float :=
  r.inputs.values ++ r.resolved.map ResolvedVariable.value ++
    r.samples.flatMap SampleResult.numbers ++ r.finalValue.toList ++
    r.jointValues.map JointValue.value

namespace Batch

/-- The numbers of a batch. -/
def numbers (b : Batch) : List Float :=
  b.results.flatMap Result.numbers

/-- The counts of a batch: how many samples it has, and which of them are in its results. -/
def counts (b : Batch) : List Count :=
  b.sampleCount :: b.results.flatMap fun r => r.samples.map fun s => s.sample.index

/-- A durable batch: its numbers are finite, and its counts have no more digits than are read. -/
@[mk_iff]
structure Durable (b : Batch) : Prop where
  finite : ∀ x ∈ b.numbers, x.isFinite
  short : ∀ c ∈ b.counts, Decimal.digitCount c.val ≤ Decimal.maxIntegerDigits

instance (b : Batch) : Decidable b.Durable :=
  decidable_of_iff _ b.durable_iff.symm

end Batch

/-! ## What is read -/

/-- A pair of numbers is read just if both are finite. -/
lemma Pair.gives_json (p : Pair) :
    p.json.Gives Pair.read p ↔ p.before.isFinite ∧ p.after.isFinite := by
  obtain ⟨before, after⟩ := p
  rw [← gives_float, ← gives_float]
  refine gives_record (fun ms' back => ?_) fun ⟨before, after⟩ => ?_
  · rw [← required_iff "before" back rfl, ← required_iff "after" back rfl]
    simp only [seq_eq_found, map_eq_found]
    simp
  · simp [before.back, after.back]

/-- A pair of numbers does not come back as null. -/
lemma Pair.json_readBack_ne_null (p : Pair) : p.json.readBack ≠ .ok null := by
  intro back
  obtain ⟨ms, -, e⟩ := record_back back
  cases e

/-- The value of a formula over one sample is read just if it is finite or missing. -/
lemma SampleValue.gives_json (v : SampleValue) :
    v.json.Gives SampleValue.read v ↔ ∀ x ∈ v.value, x.isFinite := by
  obtain ⟨name, formula, value, shown⟩ := v
  -- the members that always come back are found, so the number alone decides
  have name := gives_text name
  have formula := gives_text formula
  have shown := gives_bool shown
  rw [← gives_float?]
  refine gives_record (fun ms' back => ?_) fun value => ?_
  · rw [← required_iff "value" back rfl]
    replace name := (required_iff "name" back rfl).2 name
    replace formula := (required_iff "formula" back rfl).2 formula
    replace shown := (optional_iff "is_show" true back rfl).2 shown
    simp only [seq_eq_found, map_eq_found]
    simp [name, formula, shown]
  · simp [name.back, formula.back, value.back, shown.back]

/-- A sample is read just if its index is short and its numbers are finite. -/
lemma SampleResult.gives_json (s : SampleResult) :
    s.json.Gives SampleResult.read s ↔
      Decimal.digitCount s.sample.index.val ≤ Decimal.maxIntegerDigits ∧
      ∀ x ∈ s.numbers, x.isFinite := by
  have parts : (∀ x ∈ s.numbers, x.isFinite) ↔
      (∀ x ∈ s.sample.single, x.isFinite) ∧ (∀ p ∈ s.sample.pair, p.json.Gives Pair.read p) ∧
      (∀ x ∈ s.evaluated, x.isFinite) ∧ ∀ v ∈ s.values, v.json.Gives SampleValue.read v := by
    simp only [SampleResult.numbers, Sample.numbers, Pair.gives_json, SampleValue.gives_json,
      List.forall_mem_append, List.forall_mem_flatMap, List.forall_mem_filterMap,
      List.forall_mem_cons, Option.mem_toList, Option.mem_def, and_assoc]
    simp
  obtain ⟨⟨index, single, pair, judgement⟩, status, evaluated, values⟩ := s
  have judgement := gives_bool? judgement
  have status := gives_bool? status
  rw [parts, ← gives_count, ← gives_float?, ← gives_float?, ← gives_list,
    ← gives_option Pair.json_readBack_ne_null]
  refine gives_record (fun ms' back => ?_) fun ⟨index, single, pair, evaluated, values⟩ => ?_
  · rw [← required_iff "sample_index" back rfl, ← optional_iff "single_value" none back rfl,
      ← optional_iff "before_after_value" none back rfl,
      ← optional_iff "evaluated_value" none back rfl,
      ← optional_iff "pre_processing_formula_values" [] back rfl]
    replace judgement := (optional_iff "qualitative_value" none back rfl).2 judgement
    replace status := (optional_iff "status" none back rfl).2 status
    simp only [Sample.readMembers, absentable, seq_eq_found, map_eq_found]
    simp [judgement, status, and_assoc, -Subtype.exists]
  · simp [Sample.members, index.back, single.back, pair.back, judgement.back, status.back,
      evaluated.back, values.back]

/-- A variable with its value is read just if this is finite. -/
lemma ResolvedVariable.gives_json (v : ResolvedVariable) :
    v.json.Gives ResolvedVariable.read v ↔ v.value.isFinite := by
  obtain ⟨name, kind, value, formula⟩ := v
  have name := gives_text name
  have kind := gives_keyword (keyword_kind kind)
  have formula := gives_text? formula
  rw [← gives_float]
  refine gives_record (fun ms' back => ?_) fun value => ?_
  · rw [← required_iff "value" back rfl]
    replace name := (required_iff "name" back rfl).2 name
    replace kind := (required_iff "type" back rfl).2 kind
    replace formula := (optional_iff "formula" none back rfl).2 formula
    simp only [absentable, seq_eq_found, map_eq_found]
    simp [name, kind, formula]
  · simp [name.back, kind.back, value.back, formula.back]

/-- The value of a formula over all samples is read just if it is finite. -/
lemma JointValue.gives_json (v : JointValue) :
    v.json.Gives JointValue.read v ↔ v.value.isFinite := by
  obtain ⟨name, formula, value, final⟩ := v
  have name := gives_text name
  have formula := gives_text formula
  have final := gives_bool final
  rw [← gives_float]
  refine gives_record (fun ms' back => ?_) fun value => ?_
  · rw [← required_iff "value" back rfl]
    replace name := (required_iff "name" back rfl).2 name
    replace formula := (required_iff "formula" back rfl).2 formula
    replace final := (optional_iff "is_final_value" false back rfl).2 final
    simp only [seq_eq_found, map_eq_found]
    simp [name, formula, final]
  · simp [name.back, formula.back, value.back, final.back]

/-- A result is read just if the indices of its samples are short and its numbers are finite. -/
lemma Result.gives_json (r : Result) :
    r.json.Gives Result.read r ↔
      (∀ s ∈ r.samples, Decimal.digitCount s.sample.index.val ≤ Decimal.maxIntegerDigits) ∧
      ∀ x ∈ r.numbers, x.isFinite := by
  have parts : (∀ s ∈ r.samples, Decimal.digitCount s.sample.index.val ≤ Decimal.maxIntegerDigits) ∧
      (∀ x ∈ r.numbers, x.isFinite) ↔
      (∀ x ∈ r.inputs.values, x.isFinite) ∧
      (∀ v ∈ r.resolved, v.json.Gives ResolvedVariable.read v) ∧
      (∀ s ∈ r.samples, s.json.Gives SampleResult.read s) ∧
      (∀ x ∈ r.finalValue, x.isFinite) ∧
      ∀ v ∈ r.jointValues, v.json.Gives JointValue.read v := by
    -- of the samples the indices are on one side, and the numbers on the other
    simp only [ResolvedVariable.gives_json, SampleResult.gives_json, JointValue.gives_json,
      Result.numbers, List.forall_mem_append, List.forall_mem_flatMap, List.forall_mem_map,
      forall_and, Option.mem_toList, Option.mem_def]
    tauto
  obtain ⟨item, strategy, status, inputs, resolved, samples, finalValue, jointValues⟩ := r
  have item := gives_text item
  have strategy := gives_keyword (keyword_strategy strategy)
  have status := gives_bool? status
  rw [parts, ← gives_table, ← gives_list, ← gives_list, ← gives_float?, ← gives_list]
  refine gives_record (fun ms' back => ?_) fun ⟨inputs, resolved, samples, finalValue, joint⟩ => ?_
  · rw [← optional_iff "variable_values" .empty back rfl, ← optional_iff "variables" [] back rfl,
      ← optional_iff "samples" [] back rfl, ← optional_iff "final_value" none back rfl,
      ← optional_iff "joint_results" [] back rfl]
    replace item := (required_iff "measurement_item_name_id" back rfl).2 item
    replace strategy := (required_iff "evaluation_type" back rfl).2 strategy
    replace status := (optional_iff "status" none back rfl).2 status
    simp only [absentable, seq_eq_found, map_eq_found]
    simp [item, strategy, status, and_assoc]
  · simp [item.back, strategy.back, status.back, inputs.back, resolved.back, samples.back,
      finalValue.back, joint.back]

/-- A point in time does not come back as null. -/
lemma Timestamp.json_readBack_ne_null (t : Timestamp) : t.json.readBack ≠ .ok null :=
  nofun

namespace Batch

/-- A batch is read from its document just if its numbers are finite and its counts are short. -/
theorem gives_json (b : Batch) : b.json.Gives read b ↔ b.Durable := by
  have parts : b.Durable ↔
      Decimal.digitCount b.sampleCount.val ≤ Decimal.maxIntegerDigits ∧
      ∀ r ∈ b.results, r.json.Gives Result.read r := by
    simp only [durable_iff, Result.gives_json, numbers, counts, List.forall_mem_cons,
      List.forall_mem_flatMap, List.forall_mem_map, forall_and]
    tauto
  obtain ⟨id, product, number, sampleCount, status, overall, results, measuredBy, measuredAt, notes,
    createdAt⟩ := b
  have id := gives_text id
  have product := gives_text product
  have number := gives_text number
  have status := gives_keyword (keyword_status status)
  have overall := gives_bool? overall
  have measuredBy := gives_text? measuredBy
  have measuredAt := (gives_option Timestamp.json_readBack_ne_null measuredAt).2 fun t _ =>
    gives_time t
  have notes := gives_text? notes
  have createdAt := gives_time createdAt
  rw [parts, ← gives_count, ← gives_list]
  refine gives_record (fun ms' back => ?_) fun ⟨sampleCount, results⟩ => ?_
  · rw [← required_iff "sample_count" back rfl, ← optional_iff "measurement_results" [] back rfl]
    replace id := (required_iff "measurement_id" back rfl).2 id
    replace product := (required_iff "product_id" back rfl).2 product
    replace number := (required_iff "batch_number" back rfl).2 number
    replace status := (optional_iff "status" .pending back rfl).2 status
    replace overall := (optional_iff "overall_result" none back rfl).2 overall
    replace measuredBy := (optional_iff "measured_by" none back rfl).2 measuredBy
    replace measuredAt := (optional_iff "measured_at" none back rfl).2 measuredAt
    replace notes := (optional_iff "notes" none back rfl).2 notes
    replace createdAt := (required_iff "created_at" back rfl).2 createdAt
    simp only [absentable, seq_eq_found, map_eq_found]
    simp [id, product, number, status, overall, measuredBy, measuredAt, notes, createdAt,
      -Subtype.exists]
  · simp [id.back, product.back, number.back, sampleCount.back, status.back, overall.back,
      results.back, measuredBy.back, measuredAt.back, notes.back, createdAt.back]

end Batch

/-! ## Results that last -/

namespace Json

variable {α β : Type} {v : Json} {r : Reader α}

/-- Of a stored value no two things are read. -/
lemma Gives.unique {a b : α} (h : v.Gives r a) (h' : v.Gives r b) : a = b := by
  obtain ⟨j, back, read⟩ := h
  obtain ⟨j', back', read'⟩ := h'
  obtain rfl : j = j' := Except.ok.inj (back.symm.trans back')
  exact Reading.found.inj (read.symm.trans read')

/-- A count that was read is short. -/
lemma short_of_gives {c d : Count} (h : (ofCount c).Gives count d) :
    Decimal.digitCount d.val ≤ Decimal.maxIntegerDigits := by
  obtain ⟨j, back, read⟩ := h
  obtain rfl := count_back back read
  exact (gives_count d).1 ⟨j, back, read⟩

/-- A number that was read is finite. -/
lemma finite_of_gives {x y : Float} (h : (float x).Gives number y) : y.isFinite := by
  obtain ⟨j, back, read⟩ := h
  cases back
  obtain ⟨finite, rfl⟩ := number_floatBack.1 read
  exact finite

/-- A part that was read, though it might have been missing, is as such parts are read. -/
lemma forall_of_gives_option {f : β → Json} {x : Option β} {y : Option α} {P : α → Prop}
    (h : (ofOption f x).Gives (nullable r) y) (own : ∀ b a, (f b).Gives r a → P a) :
    ∀ a ∈ y, P a := by
  obtain ⟨j, back, read⟩ := h
  rintro a rfl
  cases x with
  | none =>
    cases back
    cases read
  | some b =>
    rcases nullable_eq_found read with ⟨-, none⟩ | ⟨a', e, read⟩
    · cases none
    · obtain rfl := Option.some.inj e
      exact own b a ⟨j, back, read⟩

/-- A number that was read, though it might have been missing, is finite. -/
lemma finite_of_gives? {x y : Option Float} (h : (ofFloat? x).Gives (nullable number) y) :
    ∀ z ∈ y, z.isFinite := by
  have same : ofFloat? x = ofOption float x := by
    cases x with
    | none => rfl
    | some x => rfl
  rw [same] at h
  exact forall_of_gives_option h fun _ _ => finite_of_gives

/-- The items of a list that was read are as such items are read. -/
lemma forall_of_gives_list {f : β → Json} {bs : List β} {as : List α} {P : α → Prop}
    (h : (ofList f bs).Gives (Reader.list r) as) (own : ∀ b a, (f b).Gives r a → P a) :
    ∀ a ∈ as, P a := by
  obtain ⟨j, back, read⟩ := h
  intro a mem
  obtain ⟨b, -, gives⟩ := exists_mem_of_forall₂ (list_back back read) mem
  exact own b a gives

end Json

/-! ## What was read -/

/-- A pair of numbers that was read is finite. -/
lemma Pair.finite_of_gives {p p' : Pair} (h : p.json.Gives Pair.read p') :
    p'.before.isFinite ∧ p'.after.isFinite := by
  obtain ⟨j, back, read⟩ := h
  obtain ⟨ms, members, rfl⟩ := record_back back
  rw [Pair.read, model] at read
  simp only [seq_eq_found, map_eq_found] at read
  obtain ⟨_, after, ⟨before, before_read, rfl⟩, after_read, rfl⟩ := read
  exact ⟨Json.finite_of_gives ((required_iff "before" members rfl).1 before_read),
    Json.finite_of_gives ((required_iff "after" members rfl).1 after_read)⟩

/-- The value of a formula over one sample that was read is finite or missing. -/
lemma SampleValue.finite_of_gives {v v' : SampleValue} (h : v.json.Gives SampleValue.read v') :
    ∀ x ∈ v'.value, x.isFinite := by
  obtain ⟨j, back, read⟩ := h
  obtain ⟨ms, members, rfl⟩ := record_back back
  rw [SampleValue.read, model] at read
  simp only [seq_eq_found, map_eq_found] at read
  obtain ⟨_, _, ⟨_, value, ⟨_, _, ⟨_, -, rfl⟩, -, rfl⟩, value_read, rfl⟩, -, rfl⟩ := read
  exact finite_of_gives? ((required_iff "value" members rfl).1 value_read)

/-- A variable that was read has a finite value. -/
lemma ResolvedVariable.finite_of_gives {v v' : ResolvedVariable}
    (h : v.json.Gives ResolvedVariable.read v') : v'.value.isFinite := by
  obtain ⟨j, back, read⟩ := h
  obtain ⟨ms, members, rfl⟩ := record_back back
  rw [ResolvedVariable.read, model] at read
  simp only [seq_eq_found, map_eq_found] at read
  obtain ⟨_, _, ⟨_, value, ⟨_, _, ⟨_, -, rfl⟩, -, rfl⟩, value_read, rfl⟩, -, rfl⟩ := read
  exact Json.finite_of_gives ((required_iff "value" members rfl).1 value_read)

/-- The value of a formula over all samples that was read is finite. -/
lemma JointValue.finite_of_gives {v v' : JointValue} (h : v.json.Gives JointValue.read v') :
    v'.value.isFinite := by
  obtain ⟨j, back, read⟩ := h
  obtain ⟨ms, members, rfl⟩ := record_back back
  rw [JointValue.read, model] at read
  simp only [seq_eq_found, map_eq_found] at read
  obtain ⟨_, _, ⟨_, value, ⟨_, _, ⟨_, -, rfl⟩, -, rfl⟩, value_read, rfl⟩, -, rfl⟩ := read
  exact Json.finite_of_gives ((required_iff "value" members rfl).1 value_read)

/-- A sample that was read has a short index and finite numbers. -/
lemma SampleResult.durable_of_gives {s s' : SampleResult} (h : s.json.Gives SampleResult.read s') :
    Decimal.digitCount s'.sample.index.val ≤ Decimal.maxIntegerDigits ∧
      ∀ x ∈ s'.numbers, x.isFinite := by
  obtain ⟨j, back, read⟩ := h
  obtain ⟨ms, members, rfl⟩ := record_back back
  rw [SampleResult.read, model] at read
  simp only [Sample.readMembers, absentable, seq_eq_found, map_eq_found] at read
  obtain ⟨_, values, ⟨_, evaluated, ⟨_, _, ⟨_, sample, rfl⟩, -, rfl⟩, evaluated_read, rfl⟩,
    values_read, rfl⟩ := read
  obtain ⟨_, _, ⟨_, pair, ⟨_, single, ⟨_, index_read, rfl⟩, single_read, rfl⟩, pair_read, rfl⟩, -,
    rfl⟩ := sample
  have single := finite_of_gives? ((optional_iff "single_value" none members rfl).1 single_read)
  have pair := forall_of_gives_option
    ((optional_iff "before_after_value" none members rfl).1 pair_read)
    fun _ _ => Pair.finite_of_gives
  have evaluated :=
    finite_of_gives? ((optional_iff "evaluated_value" none members rfl).1 evaluated_read)
  have values := forall_of_gives_list
    ((optional_iff "pre_processing_formula_values" [] members rfl).1 values_read)
    fun _ _ => SampleValue.finite_of_gives
  refine ⟨short_of_gives ((required_iff "sample_index" members rfl).1 index_read), ?_⟩
  simp only [SampleResult.numbers, Sample.numbers, List.forall_mem_append, List.forall_mem_flatMap,
    List.forall_mem_filterMap, List.forall_mem_cons, List.not_mem_nil, false_imp_iff, forall_const,
    and_true, Option.mem_toList]
  exact ⟨⟨⟨single, pair⟩, evaluated⟩, values⟩

/-- A durable result: its numbers are finite, and the indices of its samples have no more digits
than are read. -/
@[mk_iff]
structure Result.Durable (r : Result) : Prop where
  finite : ∀ x ∈ r.numbers, x.isFinite
  short : ∀ s ∈ r.samples, Decimal.digitCount s.sample.index.val ≤ Decimal.maxIntegerDigits

namespace Result

variable {r r' : Result}

instance (r : Result) : Decidable r.Durable :=
  decidable_of_iff _ r.durable_iff.symm

/-- A result is read as itself just if it is durable. -/
lemma gives_self : r.json.Gives Result.read r ↔ r.Durable := by
  rw [gives_json, durable_iff, and_comm]

/-- A result that was read is durable. -/
lemma durable_of_gives (h : r.json.Gives Result.read r') : r'.Durable := by
  obtain ⟨j, back, read⟩ := h
  obtain ⟨ms, members, rfl⟩ := record_back back
  rw [Result.read, model] at read
  simp only [absentable, seq_eq_found, map_eq_found] at read
  obtain ⟨_, joint, ⟨_, final, ⟨_, samples, ⟨_, resolved, ⟨_, inputs, ⟨_, _, ⟨_, _, ⟨_, -, rfl⟩, -,
    rfl⟩, -, rfl⟩, inputs_read, rfl⟩, resolved_read, rfl⟩, samples_read, rfl⟩, final_read, rfl⟩,
    joint_read, rfl⟩ := read
  obtain ⟨inputs, rfl⟩ :=
    gives_table_iff.1 ((optional_iff "variable_values" .empty members rfl).1 inputs_read)
  have resolved := forall_of_gives_list ((optional_iff "variables" [] members rfl).1 resolved_read)
    fun _ _ => ResolvedVariable.finite_of_gives
  have samples := forall_of_gives_list ((optional_iff "samples" [] members rfl).1 samples_read)
    fun _ _ => SampleResult.durable_of_gives
  have final := finite_of_gives? ((optional_iff "final_value" none members rfl).1 final_read)
  have joint := forall_of_gives_list ((optional_iff "joint_results" [] members rfl).1 joint_read)
    fun _ _ => JointValue.finite_of_gives
  refine ⟨?_, fun s mem => (samples s mem).1⟩
  simp only [numbers, List.forall_mem_append, List.forall_mem_flatMap, List.forall_mem_map,
    Option.mem_toList]
  exact ⟨⟨⟨⟨inputs, resolved⟩, fun s mem => (samples s mem).2⟩, final⟩, joint⟩

/-- What is read of a result is the result just if this is durable. -/
lemma eq_iff_of_gives (h : r.json.Gives Result.read r') : r' = r ↔ r.Durable := by
  rw [← gives_self]
  constructor
  · rintro rfl
    exact h
  · exact fun own => h.unique own

end Result

namespace Batch

variable {b b' : Batch}

/-- A batch is durable just if its number of samples is short and its results are durable. -/
lemma durable_iff_results : b.Durable ↔
    Decimal.digitCount b.sampleCount.val ≤ Decimal.maxIntegerDigits ∧
      ∀ r ∈ b.results, r.Durable := by
  simp only [durable_iff, Result.durable_iff, numbers, counts, List.forall_mem_cons,
    List.forall_mem_flatMap, List.forall_mem_map, forall_and]
  tauto

/-- The results of a batch that was read are what is read of its results, and its number of samples
is short. -/
lemma results_of_gives (h : b.json.Gives read b') :
    Decimal.digitCount b'.sampleCount.val ≤ Decimal.maxIntegerDigits ∧
      List.Forall₂ (fun r r' => r.json.Gives Result.read r') b.results b'.results := by
  obtain ⟨j, back, read⟩ := h
  obtain ⟨ms, members, rfl⟩ := record_back back
  rw [Batch.read, model] at read
  simp only [absentable, seq_eq_found, map_eq_found] at read
  obtain ⟨_, _, ⟨_, _, ⟨_, _, ⟨_, _, ⟨_, results, ⟨_, _, ⟨_, _, ⟨_, count, ⟨_, _, ⟨_, _,
    ⟨_, -, rfl⟩, -, rfl⟩, -, rfl⟩, count_read, rfl⟩, -, rfl⟩, -, rfl⟩, results_read, rfl⟩, -, rfl⟩,
    -, rfl⟩, -, rfl⟩, -, rfl⟩ := read
  obtain ⟨_, results_back, results_read⟩ := optional_back members rfl results_read
  exact ⟨short_of_gives ((required_iff "sample_count" members rfl).1 count_read),
    list_back results_back results_read⟩

/-- A batch that was read is durable. -/
lemma durable_of_gives (h : b.json.Gives read b') : b'.Durable := by
  obtain ⟨short, results⟩ := results_of_gives h
  refine durable_iff_results.2 ⟨short, fun r' mem => ?_⟩
  obtain ⟨r, -, gives⟩ := exists_mem_of_forall₂ results mem
  exact Result.durable_of_gives gives

end Batch

end Inspection
