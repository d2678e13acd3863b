import Inspection.Proofs.Session.SavingFirst

/-!
# Saving an item again

A saving sees of the stored batch no more than the numbers of the items that bring none themselves.
So what is kept of a request is kept as well where the batch holds other results of items that do
(`Saves.replace`), and an item that is saved again with numbers replaces all that was stored of it:
the results of the request are the same whatever that was (`resubmission_replaces`). An item that is
saved again without numbers leaves its stored ones in sight of the items that read it
(`Plate.replaced_numbers_may_count`).
-/

namespace Inspection

namespace Session

variable {s s' s₁ : Session} {product : Product} {b b' : Batch} {id : String} {items : List Json}
  {submissions : List Submission} {rs rs' : List Result}

/-- An item of a request that brings numbers, in its result or raw. -/
def Brings (submissions : List Submission) (rs : List Result) (n : String) : Prop :=
  ∃ r ∈ rs, r.item = n ∧ (r.sampleValues ≠ [] ∨ Submission.valuesOf submissions n ≠ [])

/-- Where batches hold the same numbers of all items that bring none, requests show the same. -/
lemma agree_of_brings (fallback : s'.fallback = s.fallback) (distinct : (rs.map Result.item).Nodup)
    (same : ∀ n, ¬Brings submissions rs n → b'.valuesOf n = b.valuesOf n) (names : List String) :
    Context.Agree names ((s.context b submissions).addAll rs)
      ((s'.context b' submissions).addAll rs) := by
  refine .of_values (by rw [fallback_context, fallback_context, fallback]) fun n _ => ?_
  by_cases mem : n ∈ rs.map Result.item
  · obtain ⟨r, hr, rfl⟩ := List.mem_map.1 mem
    rw [values_of_mem distinct hr, values_of_mem distinct hr]
    by_cases computed : r.sampleValues = []
    · by_cases raw : Submission.valuesOf submissions r.item = []
      · rw [same]
        rintro ⟨r', hr', name, some⟩
        obtain rfl := List.inj_on_of_nodup_map distinct hr' hr name
        rcases some with some | some
        · exact some computed
        · exact some raw
      · rw [computed, Context.firstData_nil_cons, Context.firstData_nil_cons,
          Context.firstData_of_ne_nil raw, Context.firstData_of_ne_nil raw]
    · rw [Context.firstData_of_ne_nil computed, Context.firstData_of_ne_nil computed]
  · have stored : b'.valuesOf n = b.valuesOf n := by
      refine same n ?_
      rintro ⟨r, hr, rfl, -⟩
      exact mem (List.mem_map_of_mem hr)
    rw [values_of_notMem mem, values_of_notMem mem, stored]

/-- What is kept of a request is kept where the batch holds the same numbers of all items that bring
none. -/
lemma Saves.replace (sound : product.Sound) (saves : s.Saves product b submissions rs)
    (request : (submissions.map Submission.item).Nodup) (fallback : s'.fallback = s.fallback)
    (same : ∀ n, ¬Brings submissions rs n → b'.valuesOf n = b.valuesOf n) :
    s'.Saves product b' submissions rs where
  items := saves.items
  fits r mem := by
    rw [← saves.fits r mem]
    have agree := agree_of_brings fallback (saves.items.symm.nodup request) same
    exact (Judging.saving_local sound).congr (agree _).symm

/-- Of a request the same results are kept however it is arranged. -/
lemma Saves.unique (sound : product.Sound) (saves : s.Saves product b submissions rs)
    (saves' : s.Saves product b submissions rs')
    (request : (submissions.map Submission.item).Nodup) : rs'.Perm rs := by
  obtain ⟨order, -, arranged⟩ := sound.arrangement_evaluationOrder request
  obtain ⟨kept, judged, perm⟩ := sequence_of_fits sound (Judging.saving_local sound) request
    arranged saves.items saves.fits
  obtain ⟨kept', judged', perm'⟩ := sequence_of_fits sound (Judging.saving_local sound) request
    arranged saves'.items saves'.fits
  obtain rfl : kept = kept' := Except.ok.inj (judged.symm.trans judged')
  exact perm'.symm.trans perm

/-- What a saving stores of an item of the request. -/
lemma Saves.stored (saves : s.Saves product b submissions rs)
    (request : (submissions.map Submission.item).Nodup) {report : Option Report}
    {progress : Progress} (kept : b.save rs report = .ok progress) {n : String}
    (mem : n ∈ submissions.map Submission.item) :
    ∃ r ∈ rs, r.item = n ∧ progress.batch.result? n = some r := by
  obtain ⟨r, hr, rfl⟩ := List.mem_map.1 (saves.items.symm.subset mem)
  obtain ⟨-, rfl⟩ := Batch.save_eq_ok.1 kept
  exact ⟨r, hr, rfl, Batch.result?_putAll_of_mem (saves.items.symm.nodup request) hr⟩

/-- An item that is saved again with numbers replaces all that was stored of it: whatever result of
it the batch held, or none, the saving stores the same result of every item of the request. The
same holds where the results of it that were held come to the same numbers. -/
theorem resubmission_replaces {id' x y : String} {progress : Progress}
    (accepted : product.check = .ok product)
    (loaded : s.batch id = .ok b) (found : s.product b.product = .ok product)
    (loaded' : s'.batch id' = .ok b') (found' : s'.product b'.product = .ok product)
    (fallback : s'.fallback = s.fallback) (isOpen : b'.status.isOpen)
    (others : ∀ n, n ≠ x → b'.result? n = b.result? n)
    (read : Submission.parseAll items = .ok submissions)
    (again : x ∈ submissions.map Submission.item) (mem : y ∈ submissions.map Submission.item)
    (saved : s.saveProgress id items = .ok (progress, s₁))
    (brings : ∀ r, progress.batch.result? x = some r → r.sampleValues ≠ [] ∨
      Submission.valuesOf submissions x ≠ [] ∨ b'.valuesOf x = b.valuesOf x) :
    ∃ r, progress.batch.result? y = some r ∧
      (s'.Storable b'.id → ∃ outcome, s'.saveProgress id' items = .ok outcome) ∧
      ∀ progress' s₁', s'.saveProgress id' items = .ok (progress', s₁') →
        progress'.batch.result? y = some r := by
  obtain ⟨-, sound⟩ := Product.sound_of_check accepted
  have request := (Submission.parseAll_eq_ok.1 read).2
  obtain ⟨submissions', rs, diagnostics, read', -, saves, -, kept, -⟩ :=
    saves_of_saveProgress sound loaded found saved
  obtain rfl : submissions = submissions' := Except.ok.inj (read.symm.trans read')
  have same : ∀ n, ¬Brings submissions rs n → b'.valuesOf n = b.valuesOf n := by
    intro n none
    by_cases own : n = x
    · subst own
      obtain ⟨r, hr, name, held⟩ := saves.stored request kept again
      rcases brings r held with computed | raw | equal
      · exact absurd ⟨r, hr, name, .inl computed⟩ none
      · exact absurd ⟨r, hr, name, .inr raw⟩ none
      · exact equal
    · rw [Batch.valuesOf, Batch.valuesOf, others n own]
  have saves' := saves.replace sound request fallback same
  obtain ⟨r, hr, name, held⟩ := saves.stored request kept mem
  refine ⟨r, held, fun storable => ?_, fun progress' s₁' again' => ?_⟩
  · obtain ⟨-, -, progress', s₁', -, -, -, -, done⟩ :=
      saveProgress_of_saves sound loaded' found' read isOpen saves' storable
    exact ⟨_, done⟩
  · obtain ⟨submissions', rs', _, read', -, saves'', -, kept', -⟩ :=
      saves_of_saveProgress sound loaded' found' again'
    obtain rfl : submissions = submissions' := Except.ok.inj (read.symm.trans read')
    obtain ⟨-, rfl⟩ := Batch.save_eq_ok.1 kept'
    rw [← name]
    exact Batch.result?_putAll_of_mem (saves''.items.symm.nodup request)
      ((saves'.unique sound saves'' request).symm.subset hr)

end Session

namespace Plate

open Session

/-- A batch of plates to which a thickness alone was saved. -/
def measured : Batch :=
  { opened with status := .inProgress, results := [good "thickness" 1.0] }

/-- But for the thickness the batch holds what a new one does. -/
lemma result?_measured {n : String} (other : n ≠ "thickness") :
    opened.result? n = measured.result? n := by
  simp [Batch.result?, opened, measured, good, Ne.symm other]

/-- What is kept of a request for an open batch of plates is saved to it. -/
lemma saves_plates {b : Batch} (plates : b.product = "plate") (isOpen : b.status.isOpen)
    {items : List Json} {submissions : List Submission}
    (read : Submission.parseAll items = .ok submissions) {rs : List Result}
    (saves : (session b).Saves product b submissions rs) :
    ∃ progress s₁, (session b).saveProgress b.id items = .ok (progress, s₁) ∧
      ∀ r ∈ rs, progress.batch.result? r.item = some r := by
  obtain ⟨-, sound⟩ := Product.sound_of_check accepted
  have found : (session b).product b.product = .ok product := plates ▸ product_session b
  have request := (Submission.parseAll_eq_ok.1 read).2
  obtain ⟨rs', diagnostics, progress, s₁, perm, -, kept, -, saved⟩ := saveProgress_of_saves sound
    (batch_session b) found read isOpen saves (storable_session b _)
  refine ⟨progress, s₁, saved, fun r mem => ?_⟩
  obtain ⟨-, rfl⟩ := Batch.save_eq_ok.1 kept
  have distinct : (rs'.map Result.item).Nodup :=
    (perm.map _).symm.nodup (saves.items.symm.nodup request)
  exact Batch.result?_putAll_of_mem distinct (perm.symm.subset mem)

/-- A thickness alone can be saved, so the batch with it is reachable. -/
lemma reachable_measured : measured.Reachable product := by
  have read : Submission.parseAll [document "thickness" [1.0]] =
      .ok [submission "thickness" [1.0]] := by rfl
  have loaded := batch_session opened
  have found : (session opened).product opened.product = .ok product := product_session opened
  have keys : (Table.ofList ([submission "thickness" [1.0]].map fun x => (x.item, x))).keys =
      ["thickness"] := by rfl
  have order : product.evaluationOrder ["thickness"] = .ok ["thickness"] := by
    have thickness : product.references "thickness" = .ok [] := by rfl
    simp [Product.evaluationOrder, Product.placeItems, Product.placeItem, thickness]
  have done : ∃ report, (session opened).saveProgress opened.id [document "thickness" [1.0]] =
      .ok (⟨measured, 1, some report⟩, session measured) := by
    simp only [Session.saveProgress, read, loaded, found, keys, order, ok_bind]
    exact ⟨_, rfl⟩
  obtain ⟨report, done⟩ := done
  exact .saved reachable_opened loaded found done

/-- A thickness that is measured anew is kept with its copy. -/
lemma saves_anew {b : Batch} (copies : b = opened ∨ b = measured) :
    (session b).Saves product b [submission "thickness" [2.0], submission "copy" []]
      [good "thickness" 2.0, good "copy" 2.0] where
  items := by decide
  fits := by
    simp only [Judging.Fits, List.forall_mem_cons]
    rcases copies with rfl | rfl
    · exact ⟨by rfl, by rfl, by simp⟩
    · exact ⟨by rfl, by rfl, by simp⟩

/-- A thickness that is measured anew replaces the one that was saved: its copy is the same whether
or not there was one. -/
theorem resubmission_replaces_copy : ∃ progress s₁ progress' s₁',
    (session measured).saveProgress measured.id [document "thickness" [2.0], document "copy" []] =
      .ok (progress, s₁) ∧
    (session opened).saveProgress opened.id [document "thickness" [2.0], document "copy" []] =
      .ok (progress', s₁') ∧
    progress.batch.result? "copy" = some (good "copy" 2.0) ∧
    progress'.batch.result? "copy" = some (good "copy" 2.0) := by
  have read : Submission.parseAll [document "thickness" [2.0], document "copy" []] =
      .ok [submission "thickness" [2.0], submission "copy" []] := by rfl
  obtain ⟨progress, s₁, saved, held⟩ := saves_plates (by rfl) (by rfl) read (saves_anew (.inr rfl))
  have brings : ∀ r, progress.batch.result? "thickness" = some r → r.sampleValues ≠ [] ∨
      Submission.valuesOf [submission "thickness" [2.0], submission "copy" []] "thickness" ≠ [] ∨
      opened.valuesOf "thickness" = measured.valuesOf "thickness" := by
    intro r there
    obtain rfl : good "thickness" 2.0 = r := by
      have own := held (good "thickness" 2.0) (by simp)
      exact Option.some.inj (own.symm.trans there)
    exact .inl (by decide)
  obtain ⟨r, stored, done, same⟩ := resubmission_replaces (x := "thickness") (y := "copy") accepted
    (batch_session measured) (product_session measured) (batch_session opened)
    (product_session opened) rfl (by rfl) (fun _ => result?_measured) read (by decide) (by decide)
    saved brings
  obtain rfl : good "copy" 2.0 = r := by
    have own := held (good "copy" 2.0) (by simp)
    exact Option.some.inj (own.symm.trans stored)
  obtain ⟨⟨progress', s₁'⟩, saved'⟩ := done (storable_session opened _)
  exact ⟨progress, s₁, progress', s₁', saved, saved', stored, same _ _ saved'⟩

/-- What is kept of a thickness without samples. -/
def unmeasured : Result :=
  .unevaluated (point "thickness" .manual none) (submission "thickness" [])

/-- A saved thickness stays in sight where the thickness is saved again without samples. -/
lemma saves_stale : (session measured).Saves product measured
    [submission "thickness" [], submission "copy" []] [unmeasured, good "copy" 1.0] where
  items := by decide
  fits := by
    simp only [Judging.Fits, List.forall_mem_cons]
    exact ⟨by rfl, by rfl, by simp⟩

/-- Without a saved thickness its copy is kept without a result. -/
lemma saves_unmeasured : (session opened).Saves product opened
    [submission "thickness" [], submission "copy" []] [unmeasured, awaited] where
  items := by decide
  fits := by
    simp only [Judging.Fits, List.forall_mem_cons]
    exact ⟨by rfl, by rfl, by simp⟩

/-- Replaced numbers may count: where an item is saved again without numbers, what reads it sees
those that were stored before, although the same saving replaces them. -/
theorem replaced_numbers_may_count : ¬∀ (s s' s₁ s₁' : Session) (p : Product) (b b' : Batch)
    (id x y : String) (items : List Json) (submissions : List Submission)
    (progress progress' : Progress), p.check = .ok p → b.Reachable p → b'.Reachable p →
      s.batch id = .ok b → s.product b.product = .ok p → s'.batch id = .ok b' →
      s'.product b'.product = .ok p → s'.fallback = s.fallback →
      (∀ n, n ≠ x → b'.result? n = b.result? n) →
      Submission.parseAll items = .ok submissions → x ∈ submissions.map Submission.item →
      y ∈ submissions.map Submission.item → x ∈ p.reads y →
      s.saveProgress id items = .ok (progress, s₁) →
      s'.saveProgress id items = .ok (progress', s₁') →
        progress'.batch.result? y = progress.batch.result? y := by
  intro same
  have read : Submission.parseAll [document "thickness" [], document "copy" []] =
      .ok [submission "thickness" [], submission "copy" []] := by rfl
  obtain ⟨progress, s₁, saved, held⟩ := saves_plates (by rfl) (by rfl) read saves_stale
  obtain ⟨progress', s₁', saved', held'⟩ := saves_plates (by rfl) (by rfl) read saves_unmeasured
  have equal := same _ _ _ _ _ _ _ _ "thickness" "copy" _ _ _ _ accepted reachable_measured
    reachable_opened (batch_session measured) (product_session measured) (batch_session opened)
    (product_session opened) rfl (fun _ => result?_measured) read (by decide) (by decide)
    (by decide) saved saved'
  have stale : progress.batch.result? "copy" = some (good "copy" 1.0) :=
    held (good "copy" 1.0) (by simp)
  have fresh : progress'.batch.result? "copy" = some awaited := held' awaited (by simp)
  rw [equal, stale] at fresh
  exact absurd fresh (by decide)

end Plate

end Inspection
