import Inspection.Proofs.Session.Consistency
import Inspection.Proofs.Session.Saving

/-!
# Requests in another order

The order of the submissions of a request does not matter. What settles a batch, or is kept, is so
for the request in any order (`Settles.perm`, `Saves.perm`), as the same is handed in for every item
and the same is seen; so submitting and saving succeed in one order just if they do in any other,
and come to the same results and findings (`reorder_submitBatch`, `reorder_saveProgress`).
-/

namespace Inspection

/-- What comes of a batch when the same results are put into it in two orders: the same results and
the same verdict, where only the places of the new items may differ. -/
structure Batch.Reordered (b after after' : Batch) : Prop where
  results : ∀ n, after.result? n = after'.result? n
  overall : after.overall = after'.overall
  places : ∃ new new', after.results.map Result.item = b.results.map Result.item ++ new ∧
    after'.results.map Result.item = b.results.map Result.item ++ new' ∧ new.Perm new'

/-- Results for distinct items put in two orders differ in the places of new items only. -/
lemma Batch.reordered_putAll {b after after' : Batch} {rs rs' : List Result}
    (stored : (b.results.map Result.item).Nodup) (distinct : (rs.map Result.item).Nodup)
    (perm : rs.Perm rs') (h : after.results = (b.putAll rs).results)
    (h' : after'.results = (b.putAll rs').results) (overall : after.overall = after'.overall) :
    b.Reordered after after' where
  results n := by
    refine result?_perm (h ▸ distinct_putAll stored) ?_
    rw [h, h']
    exact putAll_perm stored distinct perm
  overall := overall
  places := by
    obtain ⟨new, e⟩ := @items_putAll b rs
    obtain ⟨new', e'⟩ := @items_putAll b rs'
    refine ⟨new, new', by rw [h, e], by rw [h', e'], ?_⟩
    rw [← List.perm_append_left_iff (b.results.map Result.item), ← e, ← e']
    exact (putAll_perm stored distinct perm).map _

namespace Session

variable {s s' : Session} {product : Product} {b : Batch} {id : String} {items items' : List Json}
  {submissions submissions' : List Submission} {rs rs' : List Result}

/-- A request in another order shows the same. -/
lemma agree_perm (request : (submissions.map Submission.item).Nodup)
    (perm : submissions.Perm submissions') (distinct : (rs.map Result.item).Nodup)
    (perm' : rs.Perm rs') (names : List String) :
    Context.Agree names ((s.context b submissions).addAll rs)
      ((s.context b submissions').addAll rs') := by
  refine .of_values (by rw [fallback_context, fallback_context]) fun n _ => ?_
  have submitted : Submission.valuesOf submissions n = Submission.valuesOf submissions' n := by
    rw [Submission.valuesOf, Submission.valuesOf, Submission.find?_table_perm request perm]
  rw [Context.values_addAll_perm distinct perm']
  by_cases mem : n ∈ rs'.map Result.item
  · obtain ⟨r, hr, rfl⟩ := List.mem_map.1 mem
    have distinct' : (rs'.map Result.item).Nodup := (perm'.map _).nodup distinct
    rw [values_of_mem distinct' hr, values_of_mem distinct' hr, submitted]
  · rw [values_of_notMem mem, values_of_notMem mem, submitted]

/-- For a request in another order the same is handed in. -/
lemma find?_handedIn_perm (request : (submissions.map Submission.item).Nodup)
    (perm : submissions.Perm submissions') (n : String) :
    (handedIn product b submissions).find? n = (handedIn product b submissions').find? n := by
  rw [handedIn, handedIn, find?_addStored, find?_addStored,
    Submission.find?_table_perm request perm]

/-- What settles a batch does so for the request in another order. -/
lemma Settles.perm (sound : product.Sound) (settles : s.Settles product b submissions rs)
    (request : (submissions.map Submission.item).Nodup) (perm : submissions.Perm submissions') :
    s.Settles product b submissions' rs :=
  settles.congr sound (find?_handedIn_perm request perm)
    (agree_perm request perm settles.distinct (.refl rs))

/-- What is kept of a request is kept of it in another order. -/
lemma Saves.perm (sound : product.Sound) (saves : s.Saves product b submissions rs)
    (request : (submissions.map Submission.item).Nodup) (perm : submissions.Perm submissions') :
    s.Saves product b submissions' rs where
  items := saves.items.trans (perm.map _)
  fits r mem := by
    have same : Judging.saving product (Submission.table submissions') =
        Judging.saving product (Submission.table submissions) := by
      funext n c
      rw [Judging.saving, Judging.saving, submissionFor, submissionFor,
        Submission.find?_table_perm request perm]
    rw [same, ← saves.fits r mem]
    exact (Judging.saving_local sound).congr
      (agree_perm request perm (saves.items.symm.nodup request) (.refl rs) _).symm

/-- About each item the same is found for the request in another order. -/
lemma Finds.same (sound : product.Sound) {found found' : Diagnostics}
    (finds : s.Finds product b submissions rs found)
    (finds' : s.Finds product b submissions' rs' found')
    (request : (submissions.map Submission.item).Nodup) (perm : submissions.Perm submissions')
    (distinct : (rs.map Result.item).Nodup) (perm' : rs.Perm rs') (n : String) :
    Diagnostics.Same n found found' := by
  by_cases mem : n ∈ rs.map Result.item
  · have noted : ∀ c d, noteOf product (Submission.table submissions) n c d =
        noteOf product (Submission.table submissions') n c d := by
      intro c d
      rw [noteOf, noteOf, submissionFor, submissionFor,
        Submission.find?_table_perm request perm]
    have first := finds.noted n mem
    rw [noted, noteOf_congr sound (agree_perm request perm distinct perm' _)] at first
    exact first.trans (finds'.noted n ((perm'.map _).subset mem)).symm
  · have out : n ∉ rs'.map Result.item := fun there => mem ((perm'.map _).symm.subset there)
    exact (finds.others n mem).trans (finds'.others n out).symm

/-- A submission that succeeds does so in another order, with the same results and verdict. -/
lemma reorder_submitBatch (sound : product.Sound) (stored : (b.results.map Result.item).Nodup)
    (loaded : s.batch id = .ok b) (found : s.product b.product = .ok product)
    (perm : items.Perm items') {measuredBy : Option String} {completion : Completion}
    (h : s.submitBatch id items measuredBy = .ok (completion, s')) :
    ∃ completion' s'', s.submitBatch id items' measuredBy = .ok (completion', s'') ∧
      b.Reordered completion.batch completion'.batch ∧
      completion.summary.passed = completion'.summary.passed ∧
      completion.summary.failed = completion'.summary.failed := by
  obtain ⟨submissions, rs, read, isOpen, settles, completed, saved⟩ :=
    settles_of_submitBatch sound loaded found h
  obtain ⟨submissions', read', permS⟩ := Submission.parseAll_perm perm read
  have settles' := settles.perm sound (Submission.parseAll_eq_ok.1 read).2 permS
  obtain ⟨filled, -⟩ := settles.completed stored completed
  obtain ⟨-, -, -, shape⟩ := Batch.complete_eq_ok.1 completed
  have storable : s.Storable b.id := Batch.id_of_complete completed ▸ storable_of_save saved
  obtain ⟨rs', completion', s'', permR, completed', -, done⟩ := submitBatch_of_settles sound loaded
    found read' isOpen stored settles' filled storable measuredBy
  obtain ⟨-, -, -, shape'⟩ := Batch.complete_eq_ok.1 completed'
  have results := Batch.putAll_perm stored settles.distinct permR.symm
  refine ⟨completion', s'', done, ?_, ?_, ?_⟩
  · refine Batch.reordered_putAll stored settles.distinct permR.symm (by rw [shape])
      (by rw [shape']) ?_
    rw [shape, shape']
    exact congrArg some results.all_eq
  · rw [shape, shape']
    exact results.countP_eq _
  · rw [shape, shape']
    simp only [Summary.failed, Summary.ofResults]
    rw [results.length_eq, results.countP_eq]

/-- A saving that succeeds does so in another order, with the same results and findings. -/
lemma reorder_saveProgress (sound : product.Sound) (stored : (b.results.map Result.item).Nodup)
    (loaded : s.batch id = .ok b) (found : s.product b.product = .ok product)
    (perm : items.Perm items') {progress : Progress}
    (h : s.saveProgress id items = .ok (progress, s')) :
    ∃ progress' s'', s.saveProgress id items' = .ok (progress', s'') ∧
      b.Reordered progress.batch progress'.batch ∧
      ∃ report report', progress.report = some report ∧ progress'.report = some report' ∧
        report.items.Perm report'.items := by
  obtain ⟨submissions, rs, diagnostics, read, isOpen, saves, finds, kept, saved⟩ :=
    saves_of_saveProgress sound loaded found h
  have request := (Submission.parseAll_eq_ok.1 read).2
  have distinct := saves.items.symm.nodup request
  obtain ⟨submissions', read', permS⟩ := Submission.parseAll_perm perm read
  obtain ⟨-, shape⟩ := Batch.save_eq_ok.1 kept
  have storable : s.Storable b.id := Batch.id_of_save kept ▸ storable_of_save saved
  obtain ⟨rs', diagnostics', progress', s'', permR, finds', kept', -, done⟩ :=
    saveProgress_of_saves sound loaded found read' isOpen (saves.perm sound request permS)
      storable
  obtain ⟨-, shape'⟩ := Batch.save_eq_ok.1 kept'
  refine ⟨progress', s'', done, ?_, ?_⟩
  · exact Batch.reordered_putAll stored distinct permR.symm (by rw [shape]) (by rw [shape'])
      (by rw [shape, shape'])
  · refine ⟨_, _, by rw [shape], by rw [shape'], ?_⟩
    exact Diagnostics.itemReports_perm fun n =>
      finds.same sound finds' request permS distinct permR.symm n

/-- The order of the submissions of a request does not matter: it decides neither whether submitting
or saving succeeds, nor the results, the verdict, the counts and the findings about the items. -/
theorem order_irrelevant (accepted : product.check = .ok product) (reachable : b.Reachable product)
    (loaded : s.batch id = .ok b) (found : s.product b.product = .ok product)
    (perm : items.Perm items') (measuredBy : Option String) :
    ((∃ outcome, s.submitBatch id items measuredBy = .ok outcome) ↔
      ∃ outcome, s.submitBatch id items' measuredBy = .ok outcome) ∧
    (∀ completion completion' s₁ s₁',
      s.submitBatch id items measuredBy = .ok (completion, s₁) →
      s.submitBatch id items' measuredBy = .ok (completion', s₁') →
        b.Reordered completion.batch completion'.batch ∧
        completion.summary.passed = completion'.summary.passed ∧
        completion.summary.failed = completion'.summary.failed) ∧
    ((∃ outcome, s.saveProgress id items = .ok outcome) ↔
      ∃ outcome, s.saveProgress id items' = .ok outcome) ∧
    ∀ progress progress' s₁ s₁',
      s.saveProgress id items = .ok (progress, s₁) →
      s.saveProgress id items' = .ok (progress', s₁') →
        b.Reordered progress.batch progress'.batch ∧
        ∃ report report', progress.report = some report ∧ progress'.report = some report' ∧
          report.items.Perm report'.items := by
  obtain ⟨-, sound⟩ := Product.sound_of_check accepted
  have submit := fun {items items' : List Json} (perm : items.Perm items') {completion s'} =>
    @reorder_submitBatch s s' product b id items items' sound reachable.distinct loaded found perm
      measuredBy completion
  have save := fun {items items' : List Json} (perm : items.Perm items') {progress s'} =>
    @reorder_saveProgress s s' product b id items items' sound reachable.distinct loaded found perm
      progress
  refine ⟨⟨?_, ?_⟩, ?_, ⟨?_, ?_⟩, ?_⟩
  · rintro ⟨⟨completion, s₁⟩, h⟩
    obtain ⟨completion', s₁', h', -⟩ := submit perm h
    exact ⟨_, h'⟩
  · rintro ⟨⟨completion, s₁⟩, h⟩
    obtain ⟨completion', s₁', h', -⟩ := submit perm.symm h
    exact ⟨_, h'⟩
  · intro completion completion' s₁ s₁' h h'
    obtain ⟨other, s₂, e, same⟩ := submit perm h
    rw [h', Except.ok.injEq, Prod.mk.injEq] at e
    exact e.1 ▸ same
  · rintro ⟨⟨progress, s₁⟩, h⟩
    obtain ⟨progress', s₁', h', -⟩ := save perm h
    exact ⟨_, h'⟩
  · rintro ⟨⟨progress, s₁⟩, h⟩
    obtain ⟨progress', s₁', h', -⟩ := save perm.symm h
    exact ⟨_, h'⟩
  · intro progress progress' s₁ s₁' h h'
    obtain ⟨other, s₂, e, same⟩ := save perm h
    rw [h', Except.ok.injEq, Prod.mk.injEq] at e
    exact e.1 ▸ same

end Session

namespace Plate

open Session

/-- A copy and its thickness are kept with their results. -/
lemma saves_opened : (session opened).Saves product opened
    [submission "copy" [], submission "thickness" [1.0]]
    [good "thickness" 1.0, good "copy" 1.0] where
  items := by decide
  fits := by
    simp only [Judging.Fits, List.forall_mem_cons]
    exact ⟨by rfl, by rfl, by simp⟩

/-- A thickness and its copy are submitted and saved in both orders, with the same outcome. -/
theorem order_irrelevant_copy : ∃ completion completion' progress progress' s₁ s₁' s₂ s₂',
    (session opened).submitBatch opened.id [document "copy" [], document "thickness" [1.0]] none =
      .ok (completion, s₁) ∧
    (session opened).submitBatch opened.id [document "thickness" [1.0], document "copy" []] none =
      .ok (completion', s₁') ∧
    opened.Reordered completion.batch completion'.batch ∧
    (session opened).saveProgress opened.id [document "copy" [], document "thickness" [1.0]] =
      .ok (progress, s₂) ∧
    (session opened).saveProgress opened.id [document "thickness" [1.0], document "copy" []] =
      .ok (progress', s₂') ∧
    opened.Reordered progress.batch progress'.batch := by
  obtain ⟨-, sound⟩ := Product.sound_of_check accepted
  have read : Submission.parseAll [document "copy" [], document "thickness" [1.0]] =
      .ok [submission "copy" [], submission "thickness" [1.0]] := by rfl
  have found : (session opened).product opened.product = .ok product := product_session opened
  obtain ⟨completion, s₁, submitted, -⟩ := completes (by rfl) (by rfl) reachable_opened.distinct
    read settles_opened (by simp)
  obtain ⟨-, -, progress, s₂, -, -, -, -, saved⟩ := saveProgress_of_saves sound
    (batch_session opened) found read (by rfl) saves_opened (storable_session opened _)
  obtain ⟨submits, completions, saves, progresses⟩ := order_irrelevant accepted reachable_opened
    (batch_session opened) found
    (.swap (document "thickness" [1.0]) (document "copy" []) []) none
  obtain ⟨⟨completion', s₁'⟩, submitted'⟩ := submits.1 ⟨_, submitted⟩
  obtain ⟨⟨progress', s₂'⟩, saved'⟩ := saves.1 ⟨_, saved⟩
  obtain ⟨same, -⟩ := completions _ _ _ _ submitted submitted'
  obtain ⟨kept, -⟩ := progresses _ _ _ _ saved saved'
  exact ⟨completion, completion', progress, progress', s₁, s₁', s₂, s₂', submitted, submitted',
    same, saved, saved', kept⟩

end Plate

end Inspection
