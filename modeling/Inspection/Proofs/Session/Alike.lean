import Inspection.Proofs.Session.Reachable
import Inspection.Proofs.Session.Saving

/-!
# Saving what could be submitted

Where a request could be submitted to a batch without results, it can be saved as well, and the two
judge alike: the results that would settle the batch are the ones that are kept, but that one with
too few samples loses its status (`Settles.saves`). The loss shows in no other item, since items see
of each other the numbers only. So what is saved of a request is what would be submitted of it
(`saveProgress_of_submitBatch`).
-/

namespace Inspection

namespace Product

/-- What is kept of a result of an item of the product. -/
def keepResult (p : Product) (r : Result) : Result :=
  match p.point? r.item with
  | some point => point.keepResult r
  | none => r

variable {p : Product} {r : Result}

/-- What is kept of a result is what the point of its item keeps of it. -/
lemma keepResult_of_point? {point : Point} (found : p.point? r.item = some point) :
    p.keepResult r = point.keepResult r := by
  rw [keepResult, found]

/-- Keeping a result may take its status away, but nothing else. -/
lemma keepResult_eq : ∃ status, p.keepResult r = { r with status := status } := by
  rw [keepResult]
  split
  case h_1 point _ => exact Point.keepResult_eq
  case h_2 => exact ⟨r.status, rfl⟩

@[simp] lemma item_keepResult : (p.keepResult r).item = r.item := by
  obtain ⟨status, e⟩ := @keepResult_eq p r
  rw [e]

@[simp] lemma sampleValues_keepResult : (p.keepResult r).sampleValues = r.sampleValues := by
  obtain ⟨status, e⟩ := @keepResult_eq p r
  rw [e]
  rfl

/-- The results that are kept are for the same items. -/
lemma items_keepResult {rs : List Result} :
    (rs.map p.keepResult).map Result.item = rs.map Result.item := by
  rw [List.map_map]
  exact List.map_congr_left fun r _ => item_keepResult

end Product

/-- What a complete submission comes to is kept of it. -/
lemma Point.keep_of_evaluate {p : Point} {x : Submission} {c : Context} {r : Result}
    (h : p.evaluate x c true = .ok r) : p.keep x c = .ok (p.keepResult r) := by
  have valid : (x.validate p false).isValid = true := by
    rw [Validation.isValid, Submission.issues_incomplete (evaluate_eq_ok.1 h).1]
    rfl
  rw [keep, valid, evaluate_incomplete h]
  rfl

/-- A batch without results has those that are put, and no others. -/
lemma Batch.putAll_perm_of_empty {b : Batch} {rs : List Result} (empty : b.results = [])
    (distinct : (rs.map Result.item).Nodup) : (b.putAll rs).results.Perm rs := by
  have stored : (b.results.map Result.item).Nodup := by simp [empty]
  rw [List.perm_ext_iff_of_nodup (distinct_putAll stored).of_map distinct.of_map]
  intro r
  rw [mem_putAll stored distinct, empty]
  simp

namespace Session

variable {s s' : Session} {product : Product} {b : Batch} {id : String} {items : List Json}
  {submissions : List Submission} {rs : List Result}

/-- Items see the same of results and of what is kept of them. -/
lemma agree_keepResult (distinct : (rs.map Result.item).Nodup) (names : List String) :
    Context.Agree names ((s.context b submissions).addAll rs)
      ((s.context b submissions).addAll (rs.map product.keepResult)) := by
  refine .of_values (by rw [fallback_context, fallback_context]) fun n _ => ?_
  have distinct' : ((rs.map product.keepResult).map Result.item).Nodup := by
    rwa [Product.items_keepResult]
  by_cases mem : n ∈ rs.map Result.item
  · obtain ⟨r, hr, rfl⟩ := List.mem_map.1 mem
    have kept : ((s.context b submissions).addAll (rs.map product.keepResult)).values _ = _ :=
      values_of_mem distinct' (List.mem_map_of_mem hr)
    rw [Product.item_keepResult, Product.sampleValues_keepResult] at kept
    rw [values_of_mem distinct hr, kept]
  · rw [values_of_notMem mem, values_of_notMem (by rwa [Product.items_keepResult])]

/-- Of results that settle a batch without any, what is kept can be saved. -/
lemma Settles.saves (sound : product.Sound) (distinct : (submissions.map Submission.item).Nodup)
    (empty : b.results = []) (settles : s.Settles product b submissions rs) :
    s.Saves product b submissions (rs.map product.keepResult) where
  items := by
    have keys : (handedIn product b submissions).keys = submissions.map Submission.item := by
      rw [handedIn, empty]
      exact Submission.keys_table distinct
    rw [Product.items_keepResult, ← keys]
    exact settles.items
  fits r' mem := by
    obtain ⟨r, hr, rfl⟩ := List.mem_map.1 mem
    obtain ⟨point, found, e, -⟩ := Judging.complete_eq_ok.1 (settles.fits r hr)
    have request : handedIn product b submissions = Submission.table submissions := by
      rw [handedIn, empty]
      rfl
    rw [request] at e
    rw [Product.item_keepResult, Product.keepResult_of_point? found,
      ← (Judging.saving_local sound).congr (agree_keepResult settles.distinct _)]
    exact Judging.saving_eq_ok.2 ⟨point, found, Point.keep_of_evaluate e⟩

/-- A request that could be submitted to a batch without results can be saved, and of each item the
result is stored that would be submitted, without its status where samples are missing. -/
theorem saveProgress_of_submitBatch {measuredBy : Option String} {completion : Completion}
    (accepted : product.check = .ok product) (loaded : s.batch id = .ok b)
    (found : s.product b.product = .ok product) (empty : b.results = [])
    (submitted : s.submitBatch id items measuredBy = .ok (completion, s')) :
    ∃ progress s₁, s.saveProgress id items = .ok (progress, s₁) ∧
      s.save progress.batch = .ok s₁ ∧
      (progress.batch.results.map Result.item).Perm (completion.batch.results.map Result.item) ∧
      ∀ r ∈ completion.batch.results, ∃ point, product.point? r.item = some point ∧
        progress.batch.result? r.item = some (point.keepResult r) := by
  obtain ⟨-, sound⟩ := Product.sound_of_check accepted
  obtain ⟨submissions, rs, read, isOpen, settles, completed, saved⟩ :=
    settles_of_submitBatch sound loaded found submitted
  obtain ⟨-, held, -⟩ := settles.completed (by simp [empty]) completed
  have saves := settles.saves sound (Submission.parseAll_eq_ok.1 read).2 empty
  obtain ⟨kept, diagnostics, progress, s₁, perm, -, done, stored, saving⟩ :=
    saveProgress_of_saves sound loaded found read isOpen saves
      (Batch.id_of_complete completed ▸ storable_of_save saved)
  obtain ⟨-, shape⟩ := Batch.save_eq_ok.1 done
  have names : (kept.map Result.item).Nodup := by
    rw [(perm.map _).nodup_iff, Product.items_keepResult]
    exact settles.distinct
  have results : progress.batch.results.Perm kept := by
    rw [shape]
    exact Batch.putAll_perm_of_empty empty names
  refine ⟨progress, s₁, saving, stored, ?_, fun r mem => ?_⟩
  · rw [((results.trans perm).map _).congr_left, Product.items_keepResult]
    exact (held.map _).symm
  · obtain ⟨point, there, -⟩ := Judging.complete_eq_ok.1 (settles.fits r (held.subset mem))
    have own : product.keepResult r ∈ kept :=
      perm.symm.subset (List.mem_map_of_mem (held.subset mem))
    refine ⟨point, there, ?_⟩
    rw [shape, ← Product.keepResult_of_point? there, ← @Product.item_keepResult product r]
    exact Batch.result?_putAll_of_mem names own

end Session

namespace Plate

open Session

/-- A plate whose copy asks for two numbers. -/
def paired : Product :=
  { product with points := [point "thickness" .manual none,
    { point "copy" .derived (some "thickness") with
      setup := ⟨none, .quantitative, .single, .derived, some "thickness", ⟨2, by decide⟩⟩ }] }

/-- A plate is accepted although it is measured once and its copy asks for two numbers. -/
lemma accepted_paired : paired.check = .ok paired := by
  have keys : paired.readingGraph.keys = ["thickness", "copy"] := by rfl
  have thickness : paired.readingGraph.find? "thickness" = some [] := by rfl
  have copy : paired.readingGraph.find? "copy" = some ["thickness"] := by rfl
  have cycle : paired.readingGraph.cycle? = none := by
    simp [Graph.cycle?, Graph.visitAll, Graph.visit_eq, keys, thickness, copy, Except.map]
  have fine : paired.issues = [] := by
    simp only [Product.issues, cycle]
    rfl
  rw [Product.check, fine]
  rfl

/-- A session with such plates. -/
def pairing (s : Session) : Session :=
  { s with registry := ⟨⟨true, []⟩, none, .ofList [("plate", paired)]⟩ }

/-- The session has its batch. -/
lemma batch_pairing (b : Batch) : (pairing (session b)).batch b.id = .ok b := by
  simp [Session.batch, pairing, session, Store.load, Table.ofList]

/-- A batch of such plates can be created. -/
lemma reachable_paired : opened.Reachable paired := by
  have created : (pairing unopened).createBatch (.text "plate") .none =
      (.ok opened, pairing (session opened)) := by rfl
  exact .created (by rfl) created

/-- One number settles such a plate, also its copy. -/
lemma settles_paired : (pairing (session opened)).Settles paired opened
    [submission "copy" [], submission "thickness" [1.0]]
    [good "thickness" 1.0, good "copy" 1.0] where
  items := by decide
  fits := by
    simp only [Judging.Fits, List.forall_mem_cons]
    exact ⟨by rfl, by rfl, by simp⟩

/-- A plate with one number can be submitted. -/
lemma submitBatch_paired : ∃ completion s',
    (pairing (session opened)).submitBatch opened.id
      [document "copy" [], document "thickness" [1.0]] none = .ok (completion, s') ∧
    completion.batch.results.Perm [good "thickness" 1.0, good "copy" 1.0] := by
  obtain ⟨-, sound⟩ := Product.sound_of_check accepted_paired
  have read : Submission.parseAll [document "copy" [], document "thickness" [1.0]] =
      .ok [submission "copy" [], submission "thickness" [1.0]] := by rfl
  obtain ⟨rs, completion, s', perm, completed, -, submitted⟩ := submitBatch_of_settles sound
    (batch_pairing opened) (by rfl) read (by rfl) reachable_paired.distinct settles_paired
    (by simp) (storable_memory (by rfl)) none
  obtain ⟨-, held, -⟩ :=
    (settles_paired.of_perm sound perm).completed reachable_paired.distinct completed
  exact ⟨completion, s', submitted, held.trans perm⟩

/-- A plate with one number can be saved as it can be submitted, but its copy waits for the
other. -/
theorem saveProgress_paired : ∃ completion s' progress s₁,
    (pairing (session opened)).submitBatch opened.id
      [document "copy" [], document "thickness" [1.0]] none = .ok (completion, s') ∧
    (pairing (session opened)).saveProgress opened.id
      [document "copy" [], document "thickness" [1.0]] = .ok (progress, s₁) ∧
    progress.batch.result? "thickness" = some (good "thickness" 1.0) ∧
    progress.batch.result? "copy" = some { good "copy" 1.0 with status := none } := by
  obtain ⟨completion, s', submitted, held⟩ := submitBatch_paired
  obtain ⟨progress, s₁, saving, -, -, kept⟩ := saveProgress_of_submitBatch accepted_paired
    (batch_pairing opened) (by rfl) (by rfl) submitted
  obtain ⟨thickness, there, own⟩ := kept (good "thickness" 1.0) (held.symm.subset (by simp))
  obtain ⟨copy, there', own'⟩ := kept (good "copy" 1.0) (held.symm.subset (by simp))
  cases there
  cases there'
  exact ⟨completion, s', progress, s₁, submitted, saving, own, own'⟩

end Plate

end Inspection
