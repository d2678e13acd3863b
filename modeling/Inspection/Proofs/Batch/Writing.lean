import Inspection.Proofs.Document
import Inspection.Proofs.Session.Reachable
import Inspection.Proofs.Timestamp

/-!
# Writing to batches

What is read of the document of a batch is for the same batch of the same product, with the same
status, verdict and items, and their results have the same statuses; only numbers may be missing
(`Batch.restored_of_document`).

What is written to a batch is told by `Batch.Written`: results are saved, the batch is completed, or
it is cancelled. What holds of a batch from its creation on is `Batch.Regular`; it holds of a new
batch (`Batch.New.regular`), of what is written to a regular one (`Batch.Written.regular`), and of a
regular one that is read back (`Batch.Restored.regular`).
-/

namespace Inspection

open Reader Reading Json

/-- The words for how items are judged are told apart. -/
lemma keyword_strategy (x : Strategy) : keyword (Keyword.json x) = found x := by
  cases x <;> rfl

/-- The words for the kinds of variables are told apart. -/
lemma keyword_kind (x : VariableKind) : keyword (Keyword.json x) = found x := by
  cases x <;> rfl

/-- The words for where a batch stands are told apart. -/
lemma keyword_status (x : BatchStatus) : keyword (Keyword.json x) = found x := by
  cases x <;> rfl

/-! ## Distinct names -/

lemma SampleValue.distinct_json (v : SampleValue) : v.json.Distinct :=
  ⟨by simp, trivial, trivial, distinct_ofFloat? _, trivial, trivial⟩

lemma SampleResult.distinct_json (s : SampleResult) : s.json.Distinct := by
  have pair (p : Pair) : p.json.Distinct := ⟨by simp, trivial, trivial, trivial⟩
  exact ⟨by simp [Sample.members], trivial, distinct_ofFloat? _, distinct_ofOption pair _,
    distinct_ofBool? _, distinct_ofBool? _, distinct_ofFloat? _,
    distinct_ofList SampleValue.distinct_json _, trivial⟩

lemma ResolvedVariable.distinct_json (v : ResolvedVariable) : v.json.Distinct :=
  ⟨by simp, trivial, trivial, trivial, distinct_ofText? _, trivial⟩

lemma JointValue.distinct_json (v : JointValue) : v.json.Distinct :=
  ⟨by simp, trivial, trivial, trivial, trivial, trivial⟩

lemma Result.distinct_json (r : Result) : r.json.Distinct :=
  ⟨by simp, trivial, trivial, distinct_ofBool? _, distinct_table _,
    distinct_ofList ResolvedVariable.distinct_json _, distinct_ofList SampleResult.distinct_json _,
    distinct_ofFloat? _, distinct_ofList JointValue.distinct_json _, trivial⟩

/-- The members of the records in the document of a batch have distinct names. -/
lemma Batch.distinct_json (b : Batch) : b.json.Distinct :=
  ⟨by simp, trivial, trivial, trivial, trivial, trivial, distinct_ofBool? _,
    distinct_ofList Result.distinct_json _, distinct_ofText? _,
    @distinct_ofOption _ Timestamp.json (fun _ => trivial) _, distinct_ofText? _, trivial, trivial⟩

/-! ## What is read -/

/-- A sample that is read back has its index. -/
lemma SampleResult.index_back {s s' : SampleResult} {j : Json} (back : s.json.readBack = .ok j)
    (h : SampleResult.read j = found s') : s'.sample.index = s.sample.index := by
  obtain ⟨ms, members, rfl⟩ := record_back back
  rw [SampleResult.read, model] at h
  simp only [Sample.readMembers, seq_eq_found, map_eq_found] at h
  obtain ⟨_, _, ⟨_, _, ⟨_, _, ⟨_, sample, rfl⟩, -, rfl⟩, -, rfl⟩, -, rfl⟩ := h
  obtain ⟨_, _, ⟨_, _, ⟨_, _, ⟨index, read, rfl⟩, -, rfl⟩, -, rfl⟩, -, rfl⟩ := sample
  obtain ⟨j, own, read⟩ := required_back members (by rfl) read
  exact count_back own read

/-- A result that is read back is for its item, and was judged as before. -/
lemma Result.reread_of_document {r r' : Result} {j : Json} (back : r.json.readBack = .ok j)
    (h : Result.read j = found r') : r.Reread r' := by
  obtain ⟨ms, members, rfl⟩ := record_back back
  rw [Result.read, model] at h
  simp only [seq_eq_found, map_eq_found] at h
  obtain ⟨_, _, ⟨_, _, ⟨_, samples, ⟨_, _, ⟨_, _, ⟨_, status, ⟨_, strategy, ⟨item, item_read, rfl⟩,
    strategy_read, rfl⟩, status_read, rfl⟩, -, rfl⟩, -, rfl⟩, samples_read, rfl⟩, -, rfl⟩, -,
    rfl⟩ := h
  obtain ⟨_, item_back, item_read⟩ := required_back members (by rfl) item_read
  obtain ⟨_, strategy_back, strategy_read⟩ := required_back members (by rfl) strategy_read
  obtain ⟨_, status_back, status_read⟩ := optional_back members (by rfl) status_read
  obtain ⟨_, samples_back, samples_read⟩ := optional_back members (by rfl) samples_read
  refine ⟨text_back item_back item_read, keyword_back keyword_strategy strategy_back strategy_read,
    boolean_back status_back status_read, ?_⟩
  refine map_of_forall₂ (list_back samples_back samples_read) ?_
  rintro s s' ⟨_, back, read⟩
  exact SampleResult.index_back back read

/-- A batch that is read back: it stands where it stood, and is as it was but for numbers. -/
structure Batch.Restored (b b' : Batch) : Prop extends Batch.Reread b b' where
  overall : b'.overall = b.overall
  measuredAt : b'.measuredAt.isSome = b.measuredAt.isSome

/-- What is read of the document of a batch is the batch, but for numbers. -/
theorem Batch.restored_of_document {b b' : Batch} {j : Json} (back : b.json.readBack = .ok j)
    (h : Batch.read j = found b') : b.Restored b' := by
  obtain ⟨ms, members, rfl⟩ := record_back back
  rw [Batch.read, model] at h
  simp only [seq_eq_found, map_eq_found] at h
  obtain ⟨_, _, ⟨_, _, ⟨_, measuredAt, ⟨_, _, ⟨_, results, ⟨_, overall, ⟨_, status, ⟨_, _, ⟨_, _,
    ⟨_, product, ⟨id, id_read, rfl⟩, product_read, rfl⟩, -, rfl⟩, -, rfl⟩, status_read, rfl⟩,
    overall_read, rfl⟩, results_read, rfl⟩, -, rfl⟩, measuredAt_read, rfl⟩, -, rfl⟩, -, rfl⟩ := h
  obtain ⟨_, id_back, id_read⟩ := required_back members (by rfl) id_read
  obtain ⟨_, product_back, product_read⟩ := required_back members (by rfl) product_read
  obtain ⟨_, status_back, status_read⟩ := optional_back members (by rfl) status_read
  obtain ⟨_, overall_back, overall_read⟩ := optional_back members (by rfl) overall_read
  obtain ⟨_, results_back, results_read⟩ := optional_back members (by rfl) results_read
  obtain ⟨_, measuredAt_back, measuredAt_read⟩ := optional_back members (by rfl) measuredAt_read
  refine ⟨⟨text_back id_back id_read, text_back product_back product_read,
    keyword_back keyword_status status_back status_read, ?_⟩,
    boolean_back overall_back overall_read,
    isSome_back (fun t => ⟨_, rfl⟩) measuredAt_back measuredAt_read⟩
  refine (list_back results_back results_read).imp fun r r' h => ?_
  obtain ⟨_, back, read⟩ := h
  exact Result.reread_of_document back read

/-! ## What is written -/

/-- The ways of a batch: an open one is saved to, completed or cancelled. -/
inductive BatchStatus.Leads : BatchStatus → BatchStatus → Prop where
  | saved {x : BatchStatus} : x.isOpen → Leads x .inProgress
  | completed {x : BatchStatus} : x.isOpen → Leads x .completed
  | cancelled {x : BatchStatus} : x.isOpen → Leads x .cancelled

namespace Batch

/-- What may be written to a batch, with results of items of a kind. -/
inductive Written (items : String → Prop) (b : Batch) : Batch → Prop where
  | saved {rs : List Result} {report : Option Report} {progress : Progress} :
    (∀ r ∈ rs, items r.item) →
    b.save rs report = .ok progress →
    Written items b progress.batch
  | completed {rs : List Result} {measuredBy : Option String} {measuredAt : Timestamp}
    {completion : Completion} :
    (∀ r ∈ rs, items r.item) →
    b.complete rs measuredBy measuredAt = .ok completion →
    Written items b completion.batch
  | cancelled {b' : Batch} :
    b.cancel = .ok b' →
    Written items b b'

/-- A batch as it is at any time: what its status says about its results and its verdict. -/
structure Regular (items : String → Prop) (b : Batch) : Prop where
  pending : b.status = .pending → b.results = []
  overall : b.overall.isSome ↔ b.status = .completed
  measuredAt : b.measuredAt.isSome ↔ b.status = .completed
  distinct : (b.results.map Result.item).Nodup
  items : ∀ n ∈ b.results.map Result.item, items n
  nonempty : b.status = .completed → b.results ≠ []
  judged : b.status = .completed → ∀ r ∈ b.results, r.status.isSome
  verdict : b.status = .completed →
    b.overall = some (b.results.all fun r => r.status = some true)

variable {items : String → Prop} {b b' : Batch}

/-- Only an open batch is written to. -/
lemma Written.isOpen (h : b.Written items b') : b.status.isOpen := by
  cases h with
  | saved _ kept => exact (save_eq_ok.1 kept).1
  | completed _ completed => exact (complete_eq_ok.1 completed).1
  | cancelled cancelled => exact (cancel_eq_ok.1 cancelled).1

/-- A batch that is written to goes one of its ways. -/
lemma Written.leads (h : b.Written items b') : BatchStatus.Leads b.status b'.status := by
  have isOpen := h.isOpen
  cases h with
  | saved _ kept =>
    obtain ⟨-, rfl⟩ := save_eq_ok.1 kept
    exact .saved isOpen
  | completed _ completed =>
    obtain ⟨-, -, -, rfl⟩ := complete_eq_ok.1 completed
    exact .completed isOpen
  | cancelled cancelled =>
    obtain ⟨-, rfl⟩ := cancel_eq_ok.1 cancelled
    exact .cancelled isOpen

/-- A batch that is written to keeps its name. -/
lemma Written.id_eq (h : b.Written items b') : b'.id = b.id := by
  cases h with
  | saved _ kept => exact id_of_save kept
  | completed _ completed => exact id_of_complete completed
  | cancelled cancelled =>
    obtain ⟨-, rfl⟩ := cancel_eq_ok.1 cancelled
    rfl

/-- A batch that is written to is still for its product. -/
lemma Written.product_eq (h : b.Written items b') : b'.product = b.product := by
  cases h with
  | saved _ kept =>
    obtain ⟨-, rfl⟩ := save_eq_ok.1 kept
    exact product_putAll
  | completed _ completed =>
    obtain ⟨-, -, -, rfl⟩ := complete_eq_ok.1 completed
    exact product_putAll
  | cancelled cancelled =>
    obtain ⟨-, rfl⟩ := cancel_eq_ok.1 cancelled
    rfl

/-- What is written with results of items of a kind is written with items of any wider kind. -/
lemma Written.mono {items' : String → Prop} (h : b.Written items b')
    (wider : ∀ n, items n → items' n) : b.Written items' b' := by
  cases h with
  | saved fine kept => exact .saved (fun r mem => wider _ (fine r mem)) kept
  | completed fine completed => exact .completed (fun r mem => wider _ (fine r mem)) completed
  | cancelled cancelled => exact .cancelled cancelled

/-- A new batch is regular. -/
lemma New.regular (new : b.New) : b.Regular items where
  pending _ := new.results
  overall := by simp [new.overall, new.status]
  measuredAt := by simp [new.measuredAt, new.status]
  distinct := by simp [new.results]
  items := by simp [new.results]
  nonempty completed := by simp [new.status] at completed
  judged completed := by simp [new.status] at completed
  verdict completed := by simp [new.status] at completed

/-- An open batch has no verdict, and no time at which it was measured. -/
lemma Regular.of_open (regular : b.Regular items) (isOpen : b.status.isOpen) :
    b.overall = none ∧ b.measuredAt = none := by
  have other : b.status ≠ .completed := by
    intro completed
    rw [completed] at isOpen
    cases isOpen
  rw [← Option.not_isSome_iff_eq_none, ← Option.not_isSome_iff_eq_none, regular.overall,
    regular.measuredAt]
  exact ⟨other, other⟩

/-- Results of items of a kind leave only such items in a batch. -/
lemma Regular.items_putAll (regular : b.Regular items) {rs : List Result}
    (fine : ∀ r ∈ rs, items r.item) : ∀ n ∈ (b.putAll rs).results.map Result.item, items n := by
  intro n mem
  rcases mem_items_putAll.1 mem with old | new
  · exact regular.items n old
  · obtain ⟨r, there, rfl⟩ := List.mem_map.1 new
    exact fine r there

/-- What is written to a regular batch leaves it regular. -/
theorem Written.regular (h : b.Written items b') (regular : b.Regular items) :
    b'.Regular items := by
  obtain ⟨overall, measuredAt⟩ := regular.of_open h.isOpen
  cases h with
  | saved fine kept =>
    obtain ⟨-, rfl⟩ := save_eq_ok.1 kept
    exact
      { pending := nofun
        overall := by simp
        measuredAt := by simp [measuredAt]
        distinct := distinct_putAll regular.distinct
        items := regular.items_putAll fine
        nonempty := nofun
        judged := nofun
        verdict := nofun }
  | completed fine completed =>
    obtain ⟨-, some, judged, rfl⟩ := complete_eq_ok.1 completed
    exact
      { pending := nofun
        overall := by simp
        measuredAt := by simp
        distinct := distinct_putAll regular.distinct
        items := regular.items_putAll fine
        nonempty := fun _ => some
        judged := fun _ => judged
        verdict := fun _ => rfl }
  | cancelled cancelled =>
    obtain ⟨-, rfl⟩ := cancel_eq_ok.1 cancelled
    exact
      { pending := nofun
        overall := by simp [overall]
        measuredAt := by simp [measuredAt]
        distinct := regular.distinct
        items := regular.items
        nonempty := nofun
        judged := nofun
        verdict := nofun }

/-- A regular batch is regular when it is read back. -/
theorem Restored.regular (back : b.Restored b') (regular : b.Regular items) :
    b'.Regular items := by
  have named : b'.results.map Result.item = b.results.map Result.item :=
    map_of_forall₂ back.results fun _ _ r => r.item
  have statuses : b'.results.map Result.status = b.results.map Result.status :=
    map_of_forall₂ back.results fun _ _ r => r.status
  have none : b'.results = [] ↔ b.results = [] := by
    rw [← List.map_eq_nil_iff, named, List.map_eq_nil_iff]
  exact
    { pending := fun pending => none.2 (regular.pending (back.status ▸ pending))
      overall := by rw [back.overall, back.status, regular.overall]
      measuredAt := by rw [back.measuredAt, back.status, regular.measuredAt]
      distinct := by rw [named]; exact regular.distinct
      items := by rw [named]; exact regular.items
      nonempty := by
        intro completed
        rw [back.status] at completed
        rw [ne_eq, none]
        exact regular.nonempty completed
      judged := by
        intro completed
        rw [back.status] at completed
        rw [← List.forall_mem_map (f := Result.status) (P := fun x => x.isSome), statuses,
          List.forall_mem_map]
        exact regular.judged completed
      verdict := by
        intro completed
        rw [back.status] at completed
        rw [back.overall, regular.verdict completed]
        have all : ∀ rs : List Result, (rs.all fun r => r.status = some true) =
            (rs.map Result.status).all fun x => x = some true := fun rs => by rw [List.all_map]; rfl
        rw [all, all, statuses] }

end Batch

end Inspection
