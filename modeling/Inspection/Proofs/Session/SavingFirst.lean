import Inspection.Proofs.Session.Consistency
import Inspection.Proofs.Session.Saving

/-!
# Saving before submitting

Part of a request can be saved before the rest is submitted. No error ends the saving
(`saveProgress_ne_error`). What was saved of an item hands in again what was handed in for it,
unless that gave samples to a derived item (`Point.resubmission_of_keep`), and an item that comes to
no numbers was saved without any (`Point.sampleValues_of_keep`). So the results that settle the
batch with the whole request settle it with the rest as well (`SavedFirst.settles_rest`), and the
outcome is the same (`save_then_submit`). A derived item with samples of its own is derived again
once it was saved, so there the outcome may be another (`Plate.saving_may_differ`).
-/

namespace Inspection

namespace Point

variable {p : Point} {x : Submission} {c : Context} {r : Result}

/-- What is kept of an item keeps its inputs, and its samples unless there were none and they were
derived. -/
lemma raw_of_keep (h : p.keep x c = .ok r) : r.inputs = x.inputs ∧
    (r.samples.map SampleResult.sample = x.samples ∨
      x.samples = [] ∧ p.setup.source = .derived) := by
  rcases keep_eq_ok h with rfl | ⟨r', e, rfl⟩
  · refine ⟨rfl, .inl ?_⟩
    rw [Result.unevaluated, List.map_map]
    exact List.map_id _
  · obtain ⟨status, e'⟩ := @keepResult_eq p r'
    obtain ⟨raw, ev, -, own⟩ := evaluated_of_evaluate e
    rw [e']
    refine ⟨ev.inputs, ?_⟩
    rcases own with rfl | ⟨none, derived, -⟩
    · exact .inl ev.raw
    · exact .inr ⟨none, derived⟩

/-- What is kept of an item hands in what was handed in, unless its samples were derived. -/
lemma toSubmission_of_keep (own : x.item = p.name) (given : p.setup.source = .derived →
    x.samples ≠ []) (h : p.keep x c = .ok r) : r.toSubmission = x := by
  obtain ⟨inputs, samples⟩ := raw_of_keep h
  rw [Result.toSubmission, item_of_keep h, ← own, inputs,
    samples.resolve_right fun derived => given derived.2 derived.1]

/-- What is kept of an item without samples for a derived point hands in the same again. -/
lemma resubmission_of_keep {product : Product} (found : product.point? x.item = some p)
    (underived : p.setup.source = .derived → x.samples = []) (h : p.keep x c = .ok r) :
    Session.resubmission product r = x := by
  have own : p.name = x.item := (Product.point?_eq_some found).2
  have item : r.item = x.item := (item_of_keep h).trans own
  rw [Session.resubmission, item, found]
  dsimp only
  split
  case isTrue derived => rw [Result.toSubmission, item, (raw_of_keep h).1, ← underived derived]
  case isFalse other => exact toSubmission_of_keep own.symm (fun derived => absurd derived other) h

/-- Samples that come to a status but to no number have no raw numbers, and no formulas. -/
lemma numberless_of_evaluate {complete : Bool} (h : p.evaluate x c complete = .ok r)
    (judged : r.status.isSome) (empty : r.sampleValues = []) :
    x.samples ≠ [] ∧ ∀ s ∈ x.samples, p.sampleFormulas = [] ∧ s.single = none := by
  obtain ⟨raw, ev, status, rfl | ⟨-, -, values, some, rfl⟩⟩ := evaluated_of_evaluate h
  · exact ⟨status.1 judged, ev.sampleValues_eq_nil.1 empty⟩
  -- derived samples have numbers
  · rw [ev.sampleValues_eq_nil] at empty
    cases values with
    | nil => exact absurd rfl some
    | cons value rest => exact absurd (empty _ List.mem_cons_self).2 (by simp)

/-- What is kept of samples without numbers or formulas has no numbers. -/
lemma sampleValues_of_keep (given : x.samples ≠ [])
    (numberless : ∀ s ∈ x.samples, p.sampleFormulas = [] ∧ s.single = none)
    (h : p.keep x c = .ok r) : r.sampleValues = [] := by
  rcases keep_eq_ok h with rfl | ⟨r', e, rfl⟩
  · rw [Result.sampleValues, Result.unevaluated, List.filterMap_map, List.filterMap_eq_nil_iff]
    exact fun s mem => (numberless s mem).2
  · obtain ⟨status, e'⟩ := @keepResult_eq p r'
    obtain ⟨raw, ev, -, rfl | ⟨empty, -⟩⟩ := evaluated_of_evaluate e
    · rw [e']
      exact ev.sampleValues_eq_nil.2 numberless
    · exact absurd empty given

end Point

/-- Where no item of an arrangement fails with an error, the sequence does not. -/
lemma sequence_ne_error {f : Judging} {order : List String} {c : Context} {e : Error}
    (none : ∀ n ∈ order, ∀ c, f n c ≠ .error (.error e)) :
    sequence f c order ≠ .error (.error e) := by
  induction order generalizing c with
  | nil => exact nofun
  | cons n rest ih =>
    have ih' := fun c => @ih c fun m mem => none m (List.mem_cons_of_mem _ mem)
    rw [sequence]
    cases first : f n c with
    | error fault =>
      intro h
      cases h
      exact none n List.mem_cons_self c first
    | ok r =>
      rw [ok_bind]
      cases others : sequence f (c.addResult r) rest with
      | error fault =>
        intro h
        cases h
        exact ih' _ others
      | ok rs =>
        intro h
        cases h

namespace Session

variable {s s' s₁ : Session} {product : Product} {b b₁ : Batch} {id : String}
  {submissions first rest : List Submission} {kept rs : List Result}

/-- A batch without results that a request settles, and to which part of the request was saved. -/
structure SavedFirst (s s₁ : Session) (product : Product) (b b₁ : Batch)
    (submissions first rest : List Submission) (kept rs : List Result) : Prop where
  settles : s.Settles product b submissions rs
  saves : s.Saves product b first kept
  request : submissions.Perm (first ++ rest)
  distinct : (submissions.map Submission.item).Nodup
  empty : b.results = []
  stored : b₁.results = (b.putAll kept).results
  fallback : s₁.fallback = s.fallback
  /-- Derived items are saved without samples of their own. -/
  underived : ∀ x ∈ first, ∀ point, product.point? x.item = some point →
    point.setup.source = .derived → x.samples = []

namespace SavedFirst

variable (saved : SavedFirst s s₁ product b b₁ submissions first rest kept rs)

include saved

/-- The items of both parts of the request are distinct. -/
lemma parts : (first.map Submission.item ++ rest.map Submission.item).Nodup := by
  rw [← List.map_append]
  exact (saved.request.map _).nodup saved.distinct

/-- The items that are saved are distinct. -/
lemma distinct_first : (first.map Submission.item).Nodup :=
  (List.nodup_append.1 saved.parts).1

/-- The items that are submitted afterwards are distinct. -/
lemma distinct_rest : (rest.map Submission.item).Nodup :=
  (List.nodup_append.1 saved.parts).2.1

/-- The items that are stored are distinct. -/
lemma distinct_kept : (kept.map Result.item).Nodup :=
  saved.saves.items.symm.nodup saved.distinct_first

/-- An item of the request is saved first or submitted afterwards. -/
lemma mem_request {n : String} : n ∈ submissions.map Submission.item ↔
    n ∈ first.map Submission.item ∨ n ∈ rest.map Submission.item := by
  rw [(saved.request.map _).mem_iff, List.map_append, List.mem_append]

/-- An item that is saved first is not submitted afterwards. -/
lemma notMem_rest {n : String} (mem : n ∈ first.map Submission.item) :
    n ∉ rest.map Submission.item := fun there =>
  (List.nodup_append.1 saved.parts).2.2 n mem n there rfl

/-- The stored items are those that were saved. -/
lemma mem_stored {n : String} :
    n ∈ b₁.results.map Result.item ↔ n ∈ first.map Submission.item := by
  rw [saved.stored, Batch.mem_items_putAll, saved.empty, saved.saves.items.mem_iff]
  simp

/-- What is stored of an item is what was kept of its submission. -/
lemma result?_of_mem {x : Submission} (mem : x ∈ first) :
    ∃ r point c, b₁.result? x.item = some r ∧ product.point? x.item = some point ∧
      point.keep x c = .ok r := by
  obtain ⟨r, hr, name, point, c, found, kept⟩ := saved.saves.of_mem saved.distinct_first mem
  refine ⟨r, point, c, ?_, found, kept⟩
  rw [← name, Batch.result?, saved.stored]
  exact Batch.result?_putAll_of_mem saved.distinct_kept hr

/-- For every item the same is handed in. -/
lemma find?_handedIn_rest (n : String) :
    (handedIn product b submissions).find? n = (handedIn product b₁ rest).find? n := by
  have whole : (handedIn product b submissions).find? n =
      (Submission.table submissions).find? n := by
    rw [handedIn, saved.empty]
    rfl
  rw [whole, handedIn, find?_addStored]
  by_cases mem : n ∈ submissions.map Submission.item
  · obtain ⟨x, hx, rfl⟩ := List.mem_map.1 mem
    rw [(Submission.find?_table saved.distinct).2 ⟨hx, rfl⟩]
    rcases List.mem_append.1 (saved.request.subset hx) with early | late
    · obtain ⟨r, point, c, stored, found, kept⟩ := saved.result?_of_mem early
      have absent := saved.notMem_rest (List.mem_map_of_mem early)
      rw [← Submission.mem_keys_table, ← Table.find?_eq_none] at absent
      rw [Batch.result?] at stored
      rw [absent, Option.none_or, stored, Option.map_some,
        Point.resubmission_of_keep found (saved.underived x early point found) kept]
    · rw [(Submission.find?_table saved.distinct_rest).2 ⟨late, rfl⟩, Option.some_or]
  · have out := mem
    rw [saved.mem_request, not_or, ← saved.mem_stored, ← Batch.result?_eq_none, Batch.result?] at out
    obtain ⟨unstored, absent⟩ := out
    rw [← Submission.mem_keys_table, ← Table.find?_eq_none] at mem absent
    rw [mem, absent, unstored]
    rfl

/-- An item that comes to no numbers has none among its raw data, and none were saved of it. -/
lemma numberless {r : Result} (mem : r ∈ rs) (none : r.sampleValues = []) :
    Submission.valuesOf submissions r.item = [] ∧ Submission.valuesOf rest r.item = [] ∧
      b₁.valuesOf r.item = [] := by
  have listed : r.item ∈ submissions.map Submission.item := by
    have there := mem_keys_handedIn.1 (saved.settles.items.subset (List.mem_map_of_mem mem))
    rw [saved.empty] at there
    exact there.resolve_right (by simp)
  obtain ⟨x, hx, name⟩ := List.mem_map.1 listed
  obtain ⟨point, found, e, judged⟩ := Judging.complete_eq_ok.1 (saved.settles.fits r mem)
  have own : submissionFor (handedIn product b submissions) r.item = x := by
    rw [submissionFor, ← name, find?_handedIn saved.distinct hx, Option.getD_some]
  rw [own] at e
  obtain ⟨given, numberless⟩ := Point.numberless_of_evaluate e judged none
  have raw : Context.rawValues x = [] := by
    rw [Context.rawValues, List.filterMap_eq_nil_iff]
    exact fun s hs => (numberless s hs).2
  rw [← name] at found ⊢
  rw [Submission.valuesOf_of_mem saved.distinct hx]
  refine ⟨raw, ?_⟩
  rcases List.mem_append.1 (saved.request.subset hx) with early | late
  · obtain ⟨r', point', c, stored, found', kept⟩ := saved.result?_of_mem early
    obtain rfl := Option.some.inj (found.symm.trans found')
    refine ⟨Submission.valuesOf_of_notMem (saved.notMem_rest (List.mem_map_of_mem early)), ?_⟩
    rw [Batch.valuesOf_of_result? stored]
    exact Point.sampleValues_of_keep given numberless kept
  · rw [Submission.valuesOf_of_mem saved.distinct_rest late]
    refine ⟨raw, Batch.valuesOf_of_notMem fun there => ?_⟩
    exact saved.notMem_rest (saved.mem_stored.1 there) (List.mem_map_of_mem late)

/-- The results show the same after the saving. -/
lemma agree (names : List String) :
    Context.Agree names ((s.context b submissions).addAll rs)
      ((s₁.context b₁ rest).addAll rs) := by
  have fallback : s.fallback = s₁.fallback := saved.fallback.symm
  refine .of_values (by rw [fallback_context, fallback_context, fallback]) fun n _ => ?_
  have unstored : b.valuesOf n = [] := Batch.valuesOf_of_notMem (by simp [saved.empty])
  by_cases mem : n ∈ rs.map Result.item
  · obtain ⟨r, hr, rfl⟩ := List.mem_map.1 mem
    rw [values_of_mem saved.settles.distinct hr, values_of_mem saved.settles.distinct hr, unstored]
    by_cases none : r.sampleValues = []
    · obtain ⟨whole, late, early⟩ := saved.numberless hr none
      rw [whole, late, early]
    · rw [Context.firstData_of_ne_nil none, Context.firstData_of_ne_nil none]
  -- an item without a result is not in the request, nor was it saved
  · have out : n ∉ submissions.map Submission.item := fun there =>
      mem (saved.settles.items.symm.subset (mem_keys_handedIn.2 (.inl there)))
    rw [values_of_notMem mem, values_of_notMem mem, unstored, Submission.valuesOf_of_notMem out]
    rw [saved.mem_request, not_or] at out
    rw [Submission.valuesOf_of_notMem out.2,
      Batch.valuesOf_of_notMem fun there => out.1 (saved.mem_stored.1 there)]

/-- The results that settle the batch with the whole request settle it with the rest. -/
lemma settles_rest (sound : product.Sound) : s₁.Settles product b₁ rest rs :=
  saved.settles.congr sound saved.find?_handedIn_rest saved.agree

/-- The rest is submitted with the results that settle the batch with the whole request. -/
lemma submitBatch (sound : product.Sound) (reloaded : s₁.batch id = .ok b₁)
    (found : s₁.product b₁.product = .ok product) {items : List Json}
    (read : Submission.parseAll items = .ok rest) (isOpen : b₁.status.isOpen)
    (storable : s₁.Storable b₁.id) (filled : rs ≠ []) (measuredBy : Option String) :
    ∃ completion s₂, s₁.submitBatch id items measuredBy = .ok (completion, s₂) ∧
      completion.batch.results.Perm rs ∧
      completion.batch.overall = some (rs.all fun r => r.status = some true) := by
  have settles := saved.settles_rest sound
  have stored : (b₁.results.map Result.item).Nodup := by
    rw [saved.stored]
    exact Batch.distinct_putAll (by simp [saved.empty])
  obtain ⟨rs', completion, s₂, perm, completed, -, submitted⟩ := submitBatch_of_settles sound
    reloaded found read isOpen stored settles filled storable measuredBy
  obtain ⟨-, held, overall⟩ := (settles.of_perm sound perm).completed stored completed
  refine ⟨completion, s₂, submitted, held.trans perm, ?_⟩
  rw [overall, perm.all_eq]

end SavedFirst

/-- No error ends a saving, where the items are known and the batch can be stored. -/
lemma saveProgress_ne_error (sound : product.Sound) (loaded : s.batch id = .ok b)
    (found : s.product b.product = .ok product) {items : List Json}
    (read : Submission.parseAll items = .ok submissions) (isOpen : b.status.isOpen)
    (known : ∀ n ∈ submissions.map Submission.item, ∃ point, product.point? n = some point)
    (storable : s.Storable b.id) (e : Error) : s.saveProgress id items ≠ .error (.error e) := by
  obtain ⟨order, arranged, steps⟩ := saveProgress_eq sound loaded found read isOpen known
  have listed : ∀ n ∈ order, n ∈ (Submission.table submissions).keys :=
    fun n mem => Submission.mem_keys_table.2 (arranged.perm.subset mem)
  rw [steps, saving_evaluateAll_eq listed]
  cases judged : sequence (.saving product (Submission.table submissions))
      (s.context b submissions) order with
  | error fault =>
    intro h
    cases h
    refine sequence_ne_error (fun n mem c => ?_) judged
    obtain ⟨point, there⟩ := known n (arranged.perm.subset mem)
    rw [Judging.saving, pointOf_eq_ok.2 there]
    exact Point.keep_ne_error
  | ok rs =>
    obtain ⟨progress, kept⟩ : ∃ progress, b.save rs (some ((notes product
        (Submission.table submissions) (s.context b submissions) .empty rs).report id b.product)) =
        .ok progress := ⟨_, Batch.save_eq_ok.2 ⟨isOpen, rfl⟩⟩
    obtain ⟨s'', stored⟩ := storable progress.batch (Batch.id_of_save kept)
    dsimp only [Except.map]
    rw [ok_bind, List.nil_append, kept]
    intro h
    rw [Outcome.of, ok_bind, stored] at h
    cases h

/-- In memory a batch is read back as it was saved, and its product is still there. -/
theorem reload_of_saveProgress {batches : Table Batch} (place : s.store = .memory batches)
    (loaded : s.batch id = .ok b) (named : b.id = id) (found : s.product b.product = .ok product)
    {items : List Json} {progress : Progress} (h : s.saveProgress id items = .ok (progress, s₁)) :
    s₁.batch id = .ok progress.batch ∧ s₁.product b.product = .ok product := by
  obtain ⟨_, _, _, _, -, -, -, -, -, done, stored⟩ := saveProgress_steps loaded h
  obtain ⟨reloaded, same⟩ := save_memory place stored
  rw [Batch.id_of_save done, named] at reloaded
  exact ⟨reloaded, (same _).trans found⟩

/-- Saving part of a request before the rest is submitted does not change the outcome, provided that
no derived item is saved with samples of its own: no error ends the saving, and where the batch is
read back as it was saved, the rest is submitted with the same results and verdict. -/
theorem save_then_submit {items items₁ items₂ : List Json} {measuredBy : Option String}
    {completion : Completion} (accepted : product.check = .ok product)
    (loaded : s.batch id = .ok b) (found : s.product b.product = .ok product)
    (empty : b.results = []) (split : (items₁ ++ items₂).Perm items)
    (submitted : s.submitBatch id items measuredBy = .ok (completion, s'))
    (underived : ∀ j ∈ items₁, ∀ x, Submission.parse j = .ok x →
      ∀ point, product.point? x.item = some point → point.setup.source = .derived →
        x.samples = []) :
    (∀ e, s.saveProgress id items₁ ≠ .error (.error e)) ∧
    ∀ progress s₁, s.saveProgress id items₁ = .ok (progress, s₁) →
      s₁.batch id = .ok progress.batch → s₁.product b.product = .ok product →
        ∃ completion₁ s₂, s₁.submitBatch id items₂ measuredBy = .ok (completion₁, s₂) ∧
          (∀ n, completion₁.batch.result? n = completion.batch.result? n) ∧
          completion₁.batch.overall = completion.batch.overall := by
  obtain ⟨-, sound⟩ := Product.sound_of_check accepted
  obtain ⟨submissions, rs, read, isOpen, settles, completed, saved⟩ :=
    settles_of_submitBatch sound loaded found submitted
  obtain ⟨whole, readWhole, request⟩ := Submission.parseAll_perm split.symm read
  obtain ⟨first, rest, readFirst, readRest, rfl⟩ := Submission.parseAll_append readWhole
  obtain ⟨filled, held, overall⟩ := settles.completed (by simp [empty]) completed
  constructor
  · refine saveProgress_ne_error sound loaded found readFirst isOpen ?_
      (Batch.id_of_complete completed ▸ storable_of_save saved)
    intro n mem
    have there : n ∈ submissions.map Submission.item := by
      rw [(request.map _).mem_iff, List.map_append]
      exact List.mem_append_left _ mem
    obtain ⟨r, hr, rfl⟩ := List.mem_map.1
      (settles.items.symm.subset (mem_keys_handedIn.2 (.inl there)))
    obtain ⟨point, known, -⟩ := Judging.complete_eq_ok.1 (settles.fits r hr)
    exact ⟨point, known⟩
  · intro progress s₁ saving reloaded found₁
    obtain ⟨first', kept, diagnostics, readFirst', -, saves, -, done, stored⟩ :=
      saves_of_saveProgress sound loaded found saving
    obtain rfl : first = first' := Except.ok.inj (readFirst.symm.trans readFirst')
    obtain ⟨-, shape⟩ := Batch.save_eq_ok.1 done
    have pre : SavedFirst s s₁ product b progress.batch submissions first rest kept rs :=
      { settles := settles
        saves := saves
        request := request
        distinct := (Submission.parseAll_eq_ok.1 read).2
        empty := empty
        stored := by rw [shape]
        fallback := fallback_of_save stored
        underived := by
          intro x mem
          obtain ⟨j, hj, own⟩ := exists_mem_of_mapM (Submission.parseAll_eq_ok.1 readFirst).1 mem
          exact underived j hj x own }
    have product₁ : progress.batch.product = b.product := by
      rw [shape, Batch.putAll_eq]
    obtain ⟨completion₁, s₂, submitted₁, held₁, overall₁⟩ := pre.submitBatch sound reloaded
      (product₁ ▸ found₁) readRest (by rw [shape]; rfl) (storable_again stored) filled measuredBy
    refine ⟨completion₁, s₂, submitted₁, fun n => ?_, overall₁.trans overall.symm⟩
    exact Batch.result?_perm ((held₁.map _).symm.nodup settles.distinct) (held₁.trans held.symm)

end Session

namespace Plate

open Session

/-- A batch of plates to which a copy alone was saved. -/
def copied (r : Result) : Batch :=
  { opened with status := .inProgress, results := [r] }

/-- What is kept of a copy is saved to a new batch. -/
lemma saveProgress_copy {numbers : List Float} {r : Result}
    (read : Submission.parseAll [document "copy" numbers] = .ok [submission "copy" numbers])
    (saves : (session opened).Saves product opened [submission "copy" numbers] [r]) :
    ∃ report, (session opened).saveProgress opened.id [document "copy" numbers] =
      .ok (⟨copied r, 1, some report⟩, session (copied r)) := by
  obtain ⟨-, sound⟩ := Product.sound_of_check accepted
  have found : (session opened).product opened.product = .ok product := product_session opened
  obtain ⟨rs, diagnostics, progress, s', perm, -, kept, stored, saved⟩ := saveProgress_of_saves
    sound (batch_session opened) found read (by rfl) saves (storable_session opened _)
  obtain rfl := List.perm_singleton.1 perm
  obtain ⟨-, rfl⟩ := Batch.save_eq_ok.1 kept
  cases stored
  exact ⟨_, saved⟩

/-- What is kept of a copy whose thickness is not there yet. -/
def awaited : Result :=
  .unevaluated (point "copy" .derived (some "thickness")) (submission "copy" [])

/-- A copy alone is kept without a result. -/
lemma saves_awaited : (session opened).Saves product opened [submission "copy" []] [awaited] where
  items := by decide
  fits := by
    simp only [Judging.Fits, List.forall_mem_cons]
    exact ⟨by rfl, by simp⟩

/-- A copy can be saved before its thickness is submitted, with the same outcome. -/
theorem save_then_submit_copy : ∃ completion s' progress s₁ completion₁ s₂,
    (session opened).submitBatch opened.id [document "copy" [], document "thickness" [1.0]] none =
      .ok (completion, s') ∧
    (session opened).saveProgress opened.id [document "copy" []] = .ok (progress, s₁) ∧
    s₁.submitBatch opened.id [document "thickness" [1.0]] none = .ok (completion₁, s₂) ∧
    (∀ n, completion₁.batch.result? n = completion.batch.result? n) ∧
    completion₁.batch.overall = completion.batch.overall := by
  have read : Submission.parseAll [document "copy" [], document "thickness" [1.0]] =
      .ok [submission "copy" [], submission "thickness" [1.0]] := by rfl
  obtain ⟨completion, s', submitted, -⟩ := completes (by rfl) (by rfl) reachable_opened.distinct
    read settles_opened (by simp)
  obtain ⟨report, saving⟩ := saveProgress_copy (by rfl) saves_awaited
  have found : (session opened).product opened.product = .ok product := product_session opened
  have underived : ∀ j ∈ [document "copy" []], ∀ x, Submission.parse j = .ok x →
      ∀ p, product.point? x.item = some p → p.setup.source = .derived → x.samples = [] := by
    intro j mem x own _ _ _
    rw [List.mem_singleton.1 mem] at own
    cases own
    rfl
  have split : ([document "copy" []] ++ [document "thickness" [1.0]]).Perm
      [document "copy" [], document "thickness" [1.0]] := .refl _
  obtain ⟨-, outcome⟩ := save_then_submit accepted (batch_session opened) found (by rfl) split
    submitted underived
  obtain ⟨reloaded, found₁⟩ := reload_of_saveProgress (by rfl) (batch_session opened) (by rfl) found
    saving
  obtain ⟨completion₁, s₂, done, same⟩ := outcome _ _ saving reloaded found₁
  exact ⟨completion, s', _, _, completion₁, s₂, submitted, saving, done, same⟩

/-- A copy with a number of its own settles a new batch. -/
lemma settles_own :
    (session opened).Settles product opened [submission "copy" [1.0]] [good "copy" 1.0] where
  items := by decide
  fits := by
    simp only [Judging.Fits, List.forall_mem_cons]
    exact ⟨by rfl, by simp⟩

/-- A copy with a number of its own is kept with its result. -/
lemma saves_own :
    (session opened).Saves product opened [submission "copy" [1.0]] [good "copy" 1.0] where
  items := by decide
  fits := by
    simp only [Judging.Fits, List.forall_mem_cons]
    exact ⟨by rfl, by simp⟩

/-- A batch of plates to which a copy with a number of its own was saved. -/
def overridden : Batch :=
  copied (good "copy" 1.0)

/-- A saved copy is derived again, which fails without a thickness. -/
lemma submitBatch_overridden : (session overridden).submitBatch opened.id [] none =
    .error (.error (.missingDependency "copy" ["thickness"])) := by
  have read : Submission.parseAll [] = .ok [] := by rfl
  have loaded : (session overridden).batch opened.id = .ok overridden := batch_session overridden
  have found : (session overridden).product overridden.product = .ok product :=
    product_session overridden
  have keys : (addStored product (Table.ofList ([].map fun x : Submission => (x.item, x)))
      overridden.results).keys = ["copy"] := by rfl
  have order : product.evaluationOrder ["copy"] = .ok ["copy"] := by
    have copy : product.references "copy" = .ok ["thickness"] := by rfl
    simp [Product.evaluationOrder, Product.placeItems, Product.placeItem, copy]
  simp only [Session.submitBatch, read, loaded, found, keys, order, Outcome.of, ok_bind]
  rfl

/-- Saving first may change the outcome: a derived item that is submitted with samples of its own
keeps them, but one that was saved with such samples is derived again. -/
theorem saving_may_differ : ¬∀ (s s' : Session) (p : Product) (b : Batch) (id : String)
    (items items₁ items₂ : List Json) (measuredBy : Option String) (completion : Completion),
      p.check = .ok p → b.Reachable p → s.batch id = .ok b → s.product b.product = .ok p →
      b.results = [] → (items₁ ++ items₂).Perm items →
      s.submitBatch id items measuredBy = .ok (completion, s') →
        ∃ progress s₁ completion₁ s₂, s.saveProgress id items₁ = .ok (progress, s₁) ∧
          s₁.submitBatch id items₂ measuredBy = .ok (completion₁, s₂) ∧
          (∀ n, completion₁.batch.result? n = completion.batch.result? n) ∧
          completion₁.batch.overall = completion.batch.overall := by
  intro same
  have read : Submission.parseAll [document "copy" [1.0]] = .ok [submission "copy" [1.0]] := by rfl
  obtain ⟨completion, s', submitted, -⟩ := completes (by rfl) (by rfl) reachable_opened.distinct
    read settles_own (by simp)
  have found : (session opened).product opened.product = .ok product := product_session opened
  have split : ([document "copy" [1.0]] ++ []).Perm [document "copy" [1.0]] := .refl _
  obtain ⟨progress, s₁, completion₁, s₂, saving, rest, -⟩ := same _ _ _ _ _ _ _ _ _ _ accepted
    reachable_opened (batch_session opened) found (by rfl) split submitted
  have failed : s₁.submitBatch opened.id [] none =
      .error (.error (.missingDependency "copy" ["thickness"])) := by
    obtain ⟨report, done⟩ := saveProgress_copy read saves_own
    rw [done] at saving
    cases saving
    exact submitBatch_overridden
  rw [failed] at rest
  cases rest

end Plate

end Inspection
