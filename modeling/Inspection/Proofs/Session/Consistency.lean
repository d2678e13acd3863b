import Inspection.Proofs.Session.Reachable
import Inspection.Proofs.Session.Submitting

/-!
# Completed batches

A completed batch can be checked against itself. Its results are just those that settled it
(`Settles.putAll_perm`), and the completed batch shows every item that is read the numbers that its
evaluation saw (`Settles.agree`), so each result is what its own raw data come to in sight of the
batch (`completed_consistent`).
-/

namespace Inspection

namespace Session

variable {s s' : Session} {product : Product} {b : Batch} {submissions : List Submission}
  {rs : List Result}

/-- What has a status has samples. -/
lemma samples_of_status {p : Point} {x : Submission} {c : Context} {complete : Bool} {r : Result}
    (h : p.evaluate x c complete = .ok r) (status : r.status.isSome) : r.samples ≠ [] := by
  obtain ⟨raw, ev, judged, -⟩ := Point.evaluated_of_evaluate h
  intro none
  refine judged.1 status ?_
  rw [← ev.raw, none, List.map_nil]

/-- Where every item that is read has numbers, the completed batch by itself shows the same as the
evaluation saw. -/
lemma Settles.agree (settles : s.Settles product b submissions rs) {completed : Batch}
    (same : completed.results = (b.putAll rs).results) {items : List String}
    (data : ∀ n ∈ items, ∀ x, completed.result? n = some x → x.sampleValues ≠ []) :
    Context.Agree items ((s.context b submissions).addAll rs)
      ⟨some completed, .empty, .empty, s.fallback⟩ := by
  refine .of_values fallback_context fun n read => ?_
  have shown : Context.values ⟨some completed, .empty, .empty, s.fallback⟩ n =
      completed.valuesOf n := Context.firstData_singleton
  have lookup : completed.result? n = (b.putAll rs).result? n := by
    rw [Batch.result?, Batch.result?, same]
  rw [shown]
  by_cases mem : n ∈ rs.map Result.item
  · obtain ⟨r, hr, rfl⟩ := List.mem_map.1 mem
    have found := lookup.trans (Batch.result?_putAll_of_mem settles.distinct hr)
    rw [values_of_mem settles.distinct hr, Batch.valuesOf_of_result? found]
    exact Context.firstData_of_ne_nil (data r.item read r found)
  -- an item without a result was neither submitted nor stored
  · have absent : n ∉ (handedIn product b submissions).keys :=
      fun there => mem (settles.items.symm.subset there)
    rw [mem_keys_handedIn, not_or] at absent
    have found := lookup.trans (Batch.result?_putAll_of_notMem mem)
    rw [values_of_notMem mem, Submission.valuesOf_of_notMem absent.1,
      Batch.valuesOf_of_notMem absent.2, Batch.valuesOf, found, Batch.result?_eq_none.2 absent.2]
    rfl

/-- Each result of a completed batch is what its own raw data come to in sight of the batch alone,
provided that every stored item that another one reads has numbers. -/
theorem completed_consistent {id : String} {items : List Json} {measuredBy : Option String}
    {completion : Completion} (accepted : product.check = .ok product)
    (reachable : b.Reachable product) (loaded : s.batch id = .ok b)
    (found : s.product b.product = .ok product)
    (submitted : s.submitBatch id items measuredBy = .ok (completion, s'))
    (data : ∀ r ∈ completion.batch.results, ∀ n ∈ product.reads r.item,
      ∀ x, completion.batch.result? n = some x → x.sampleValues ≠ [])
    {r : Result} (stored : r ∈ completion.batch.results) :
    ∃ point, product.point? r.item = some point ∧
      point.evaluate r.toSubmission ⟨some completion.batch, .empty, .empty, s.fallback⟩ false =
        .ok r := by
  obtain ⟨-, sound⟩ := Product.sound_of_check accepted
  obtain ⟨submissions, rs, -, -, settles, completed, -⟩ :=
    settles_of_submitBatch sound loaded found submitted
  obtain ⟨-, -, -, shape⟩ := Batch.complete_eq_ok.1 completed
  have same : completion.batch.results = (b.putAll rs).results := by rw [shape]
  rw [same, (settles.putAll_perm reachable.distinct).mem_iff] at stored
  have judged := settles.fits r stored
  obtain ⟨point, there, e, status⟩ := Judging.complete_eq_ok.1 judged
  have seen := settles.agree same
    (data r (by rwa [same, (settles.putAll_perm reachable.distinct).mem_iff]))
  refine ⟨point, there, ?_⟩
  rw [← Point.evaluate_toSubmission (sound.points point (Product.point?_eq_some there).1) e
    (samples_of_status e status)]
  exact sound.evaluate_congr there seen.symm _ _

end Session

namespace Plate

open Session

/-- Results that settle an open batch of plates complete it. -/
lemma completes {b : Batch} (plates : b.product = "plate") (isOpen : b.status.isOpen)
    (stored : (b.results.map Result.item).Nodup) {items : List Json}
    {submissions : List Submission} (read : Submission.parseAll items = .ok submissions)
    {rs : List Result} (settles : (session b).Settles product b submissions rs) (filled : rs ≠ []) :
    ∃ completion s', (session b).submitBatch b.id items none = .ok (completion, s') ∧
      completion.batch.results.Perm rs := by
  obtain ⟨-, sound⟩ := Product.sound_of_check accepted
  have found : (session b).product b.product = .ok product := plates ▸ product_session b
  obtain ⟨rs', completion, s', perm, completed, -, submitted⟩ := submitBatch_of_settles sound
    (batch_session b) found read isOpen stored settles filled (storable_session b _) none
  obtain ⟨-, held, -⟩ := (settles.of_perm sound perm).completed stored completed
  exact ⟨completion, s', submitted, held.trans perm⟩

/-- A copy and its thickness settle a new batch. -/
lemma settles_opened : (session opened).Settles product opened
    [submission "copy" [], submission "thickness" [1.0]]
    [good "thickness" 1.0, good "copy" 1.0] where
  items := by decide
  fits := by
    simp only [Judging.Fits, List.forall_mem_cons]
    exact ⟨by rfl, by rfl, by simp⟩

/-- The results of a plate on which everything is good. -/
def results (x : Float) : List Result :=
  [good "thickness" x, good "copy" x, good "check" x]

/-- The results of a plate show one number for each item. -/
lemma sampleValues_of_mem {x : Float} {r : Result} (mem : r ∈ results x) :
    r.sampleValues = [x] := by
  simp only [results, List.mem_cons, List.not_mem_nil, or_false] at mem
  rcases mem with rfl | rfl | rfl
  · rfl
  · rfl
  · rfl

/-- The check of a plate settles the batch to which its thickness and the copy were saved. -/
lemma settles_check :
    (session saved).Settles product saved [submission "check" []] (results 1.0) where
  items := by decide
  fits := by
    simp only [Judging.Fits, results, List.forall_mem_cons]
    exact ⟨by rfl, by rfl, by rfl, by simp⟩

/-- The batch that a check completes is consistent. -/
theorem completed_consistent_check : ∃ completion s',
    (session saved).submitBatch saved.id [document "check" []] none = .ok (completion, s') ∧
      ∀ r ∈ completion.batch.results, ∃ point, product.point? r.item = some point ∧
        point.evaluate r.toSubmission ⟨some completion.batch, .empty, .empty, none⟩ false =
          .ok r := by
  have read : Submission.parseAll [document "check" []] = .ok [submission "check" []] := by rfl
  obtain ⟨completion, s', submitted, held⟩ := completes (by rfl) (by rfl) reachable_saved.distinct
    read settles_check (by simp [results])
  have found : (session saved).product saved.product = .ok product := product_session saved
  refine ⟨completion, s', submitted, fun r mem => ?_⟩
  refine completed_consistent accepted reachable_saved (batch_session saved) found submitted ?_ mem
  intro _ _ n _ x there
  rw [sampleValues_of_mem (held.subset (Batch.mem_of_result? there).1)]
  exact List.cons_ne_nil _ _

end Plate

end Inspection
