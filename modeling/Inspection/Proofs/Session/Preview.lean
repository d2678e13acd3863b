import Inspection.Proofs.Product.Dependencies
import Inspection.Proofs.Session.Consistency
import Inspection.Session.Preview

/-!
# Previews and submissions

A preview evaluates the request items that its item needs, and reads the stored results as they are;
a submission evaluates the stored items anew. So a preview sees what the submission sees
(`Previewed.agree`) and comes to the same result (`preview_eq_submitted`), unless the submission
changes the numbers of a stored item that the item or one that it needs reads
(`Plate.preview_may_differ`).
-/

namespace Inspection

namespace Product

/-- What is needed for an item, it leads to. -/
lemma Needs.leadsTo {p : Product} {available : List String} {target x : String}
    (needs : p.Needs available target x) : p.LeadsTo target x := by
  induction needs with
  | direct read _ _ => exact .single read
  | through _ read _ _ ih => exact ih.tail read

end Product

namespace Judging

open Session

variable {product : Product} {submissions : Table Submission}

/-- The evaluation of what was handed in, with as many samples as there are. -/
def incomplete (product : Product) (submissions : Table Submission) : Judging := fun n c => do
  let point ← pointOf product n
  point.evaluate (submissionFor submissions n) c false

/-- When an item comes to a result as it is handed in. -/
lemma incomplete_eq_ok {n : String} {c : Context} {r : Result} :
    incomplete product submissions n c = .ok r ↔ ∃ point, product.point? n = some point ∧
      point.evaluate (submissionFor submissions n) c false = .ok r := by
  simp only [incomplete, bind_eq_ok, pointOf_eq_ok]

/-- Incomplete evaluations see only what the items of a sound product read. -/
lemma incomplete_local (sound : product.Sound) :
    (incomplete product submissions).Local product where
  item h := by
    obtain ⟨point, found, e⟩ := incomplete_eq_ok.1 h
    exact Product.item_of_evaluate found e
  congr {n c d} agree := by
    cases found : product.point? n with
    | none => simp [incomplete, pointOf, found, raise]
    | some point => simp [incomplete, pointOf, found, sound.evaluate_congr found agree]

end Judging

namespace Session

variable {s s' : Session} {product : Product} {b : Batch} {submissions others : List Submission}
  {x : Submission} {rs : List Result}

/-- Evaluations of items one after the other are a sequence, whose results become visible. -/
lemma evaluateAll_eq {submissions : Table Submission} {c : Context} {order : List String}
    (listed : ∀ n ∈ order, n ∈ submissions.keys) :
    evaluateAll product submissions c order =
      (sequence (.incomplete product submissions) c order).map c.addAll := by
  induction order generalizing c with
  | nil => rfl
  | cons n rest ih =>
    obtain ⟨x, there⟩ := Table.mem_keys.1 (listed n List.mem_cons_self)
    have ih' := fun c => @ih c fun m mem => listed m (List.mem_cons_of_mem _ mem)
    rw [evaluateAll, sequence, Judging.incomplete]
    cases pointOf product n with
    | error fault => rfl
    | ok point =>
      simp only [ok_bind, there, submissionFor, Option.getD_some]
      cases point.evaluate x c false with
      | error fault => rfl
      | ok r =>
        simp only [ok_bind, ih']
        cases sequence (.incomplete product submissions) (c.addResult r) rest with
        | error fault => rfl
        | ok others => rfl

/-- A submission of a request beside the others of it, and what the items of the request come to. -/
structure Previewed (s : Session) (product : Product) (b : Batch) (submissions : List Submission)
    (x : Submission) (others : List Submission) (rs : List Result) : Prop where
  settles : s.Settles product b submissions rs
  request : submissions.Perm (x :: others)
  distinct : (submissions.map Submission.item).Nodup
  /-- The submission leaves the numbers of stored items that the item, or what it needs, reads. -/
  stable : ∀ y, y = x.item ∨ product.Needs (submissions.map Submission.item) x.item y →
    ∀ z ∈ product.reads y, z ∉ submissions.map Submission.item →
      ∀ old new, b.result? z = some old → (b.putAll rs).result? z = some new →
        new.sampleValues ≠ [] → old.sampleValues = new.sampleValues

/-- The results of the items that are needed within a request. -/
def neededResults (rs : List Result) (needed : List String) : List Result :=
  rs.filter fun r => r.item ∈ needed

namespace Previewed

variable (pre : s.Previewed product b submissions x others rs)

include pre

/-- The items of the request are that of the submission and those of the others. -/
lemma items : (x.item :: others.map Submission.item).Nodup :=
  (pre.request.map Submission.item).nodup pre.distinct

/-- What is needed among the others is needed in the request. -/
lemma needs_request {y : String} (needs : product.Needs (others.map Submission.item) x.item y) :
    product.Needs (submissions.map Submission.item) x.item y := by
  have sub : ∀ n ∈ others.map Submission.item, n ∈ submissions.map Submission.item := fun n mem =>
    (pre.request.map Submission.item).symm.subset (List.mem_cons_of_mem _ mem)
  induction needs with
  | direct read mem other => exact .direct read (sub _ mem) other
  | through _ read mem other ih => exact .through ih read (sub _ mem) other

/-- What the item, or one that it needs, reads of the request is needed among the others. -/
lemma needs_of_reads (sound : product.Sound) {y z : String}
    (concerned : y = x.item ∨ product.Needs (others.map Submission.item) x.item y)
    (read : z ∈ product.reads y) (mem : z ∈ submissions.map Submission.item) :
    product.Needs (others.map Submission.item) x.item z := by
  have leads : product.LeadsTo x.item z := by
    rcases concerned with rfl | needs
    · exact .single read
    · exact needs.leadsTo.tail read
  have other : z ≠ x.item := by
    rintro rfl
    exact sound.not_leadsTo_self _ leads
  have there : z ∈ others.map Submission.item := by
    rcases List.mem_cons.1 ((pre.request.map Submission.item).subset mem) with own | mem
    · exact absurd own other
    · exact mem
  rcases concerned with rfl | needs
  · exact .direct read there other
  · exact .through needs read there other

/-- The preview shows the item, and each that it needs, the same as the submission. -/
lemma agree (sound : product.Sound) {needed : List String}
    (spec : ∀ y, y ∈ needed ↔ product.Needs (others.map Submission.item) x.item y) {y : String}
    (concerned : y = x.item ∨ product.Needs (others.map Submission.item) x.item y) :
    Context.Agree (product.reads y) ((s.context b submissions).addAll rs)
      ((s.context b others).addAll (neededResults rs needed)) := by
  refine .of_values (by rw [fallback_context, fallback_context]) fun z read => ?_
  have distinct := pre.settles.distinct
  have distinct' : ((neededResults rs needed).map Result.item).Nodup :=
    (List.filter_sublist.map _).nodup distinct
  by_cases mem : z ∈ submissions.map Submission.item
  -- a request item that is read is needed, and evaluated by both
  · have needs := pre.needs_of_reads sound concerned read mem
    have there : z ∈ rs.map Result.item :=
      pre.settles.items.symm.subset (mem_keys_handedIn.2 (.inl mem))
    obtain ⟨r, hr, rfl⟩ := List.mem_map.1 there
    have hr' : r ∈ neededResults rs needed :=
      List.mem_filter.2 ⟨hr, by simpa using (spec _).2 needs⟩
    obtain ⟨w, hw, name⟩ := List.mem_map.1 needs.mem
    have listed : w ∈ submissions := pre.request.symm.subset (List.mem_cons_of_mem _ hw)
    rw [values_of_mem distinct hr, values_of_mem distinct' hr', ← name,
      Submission.valuesOf_of_mem pre.distinct listed,
      Submission.valuesOf_of_mem (List.nodup_cons.1 pre.items).2 hw]
  -- any other item is read as it is stored, where the submission may have evaluated it anew
  · have unneeded : z ∉ (neededResults rs needed).map Result.item := by
      intro there
      obtain ⟨r, hr, rfl⟩ := List.mem_map.1 there
      have needs := (spec r.item).1 (by simpa using (List.mem_filter.1 hr).2)
      exact mem (pre.needs_request needs).mem
    have absent : z ∉ others.map Submission.item :=
      fun there => mem ((pre.request.map _).symm.subset (List.mem_cons_of_mem _ there))
    have shown : ((s.context b others).addAll (neededResults rs needed)).values z =
        b.valuesOf z := by
      rw [values_of_notMem unneeded, Submission.valuesOf_of_notMem absent]
      exact Context.firstData_singleton
    rw [shown]
    by_cases there : z ∈ rs.map Result.item
    · obtain ⟨r, hr, rfl⟩ := List.mem_map.1 there
      rw [values_of_mem distinct hr, Submission.valuesOf_of_notMem mem]
      by_cases none : r.sampleValues = []
      · rw [none]
        exact Context.firstData_singleton
      · have stored := (mem_keys_handedIn.1 (pre.settles.items.subset there)).resolve_left mem
        obtain ⟨old, found⟩ : ∃ old, b.result? r.item = some old := by
          rw [← Option.ne_none_iff_exists', ne_eq, Batch.result?_eq_none, not_not]
          exact stored
        have stays := pre.stable y (concerned.imp_right pre.needs_request) r.item read mem old r
          found (Batch.result?_putAll_of_mem distinct hr) none
        rw [Context.firstData_of_ne_nil none, Batch.valuesOf_of_result? found, stays]
    · rw [values_of_notMem there, Submission.valuesOf_of_notMem mem]
      exact Context.firstData_singleton

/-- What is needed comes to the same results in the preview. -/
lemma fits (sound : product.Sound) {needed : List String}
    (spec : ∀ y, y ∈ needed ↔ product.Needs (others.map Submission.item) x.item y) :
    (Judging.incomplete product (Submission.table others)).Fits (s.context b others)
      (neededResults rs needed) := by
  intro r mem
  obtain ⟨hr, listed⟩ := List.mem_filter.1 mem
  have needs := (spec r.item).1 (by simpa using listed)
  obtain ⟨point, found, e, -⟩ := Judging.complete_eq_ok.1 (pre.settles.fits r hr)
  obtain ⟨w, hw, name⟩ := List.mem_map.1 needs.mem
  have there : w ∈ submissions := pre.request.symm.subset (List.mem_cons_of_mem _ hw)
  refine Judging.incomplete_eq_ok.2 ⟨point, found, ?_⟩
  rw [← Point.evaluate_incomplete e,
    ← sound.evaluate_congr found (pre.agree sound spec (.inr needs)), submissionFor, submissionFor,
    ← name, find?_handedIn pre.distinct there,
    (Submission.find?_table (List.nodup_cons.1 pre.items).2).2 ⟨hw, rfl⟩]

/-- The results of what is needed are for the needed items. -/
lemma items_neededResults {needed : List String} (distinct : needed.Nodup)
    (spec : ∀ y, y ∈ needed ↔ product.Needs (others.map Submission.item) x.item y) :
    ((neededResults rs needed).map Result.item).Perm needed := by
  have distinct' : ((neededResults rs needed).map Result.item).Nodup :=
    (List.filter_sublist.map _).nodup pre.settles.distinct
  rw [List.perm_ext_iff_of_nodup distinct' distinct]
  intro y
  constructor
  · intro mem
    obtain ⟨r, hr, rfl⟩ := List.mem_map.1 mem
    simpa using (List.mem_filter.1 hr).2
  · intro mem
    have there : y ∈ submissions.map Submission.item :=
      (pre.request.map _).symm.subset (List.mem_cons_of_mem _ ((spec y).1 mem).mem)
    obtain ⟨r, hr, rfl⟩ := List.mem_map.1
      (pre.settles.items.symm.subset (mem_keys_handedIn.2 (.inl there)))
    exact List.mem_map_of_mem (List.mem_filter.2 ⟨hr, by simpa using mem⟩)

end Previewed

/-- The submissions of other items are all the others. -/
lemma othersOf_eq {point : Point} (out : point.name ∉ others.map Submission.item) :
    othersOf point others = Submission.table others := by
  have all : others.filter (fun w => w.item ≠ point.name) = others := by
    rw [List.filter_eq_self]
    intro w mem
    simp only [ne_eq, decide_eq_true_eq]
    rintro name
    exact out (name ▸ List.mem_map_of_mem mem)
  rw [othersOf, all, Submission.table]

/-- The preview of an item comes to its result. -/
lemma Previewed.evaluateItem (pre : s.Previewed product b submissions x others rs)
    (sound : product.Sound) {id : String} (loaded : s.batch id = .ok b)
    (found : s.product b.product = .ok product) {item : Json} {rest : List Json}
    (own : Submission.parse item = .ok x) (read : Submission.parseAll rest = .ok others)
    {r : Result} (mem : r ∈ rs) (name : r.item = x.item) :
    s.evaluateItem id item rest = .ok r := by
  have there : x ∈ submissions := pre.request.symm.subset List.mem_cons_self
  have items := List.nodup_cons.1 pre.items
  obtain ⟨point, known, e, -⟩ := Judging.complete_eq_ok.1 (pre.settles.fits r mem)
  rw [submissionFor, name, find?_handedIn pre.distinct there, Option.getD_some] at e
  rw [name] at known
  obtain ⟨needed, dependencies, once, spec⟩ :=
    Product.requestDependencies_eq_ok sound.points known (others.map Submission.item)
  obtain ⟨order, ordered, arranged⟩ := sound.arrangement_evaluationOrder once
  have names := pre.items_neededResults once spec
  obtain ⟨rs', judged, perm⟩ := sequence_of_fits sound (Judging.incomplete_local sound) once
    arranged names (pre.fits sound spec)
  have available : othersOf point others = Submission.table others :=
    othersOf_eq ((Product.point?_eq_some known).2 ▸ items.1)
  have listed : ∀ n ∈ order, n ∈ (Submission.table others).keys := by
    intro n hn
    rw [Submission.mem_keys_table]
    exact ((spec n).1 (arranged.perm.subset hn)).mem
  have evaluated : evaluateAll product (Submission.table others) (s.context b others) order =
      .ok ((s.context b others).addAll rs') := by
    rw [evaluateAll_eq listed, judged]
    rfl
  rw [← Submission.keys_table items.2] at dependencies
  have preview : s.evaluateItem id item rest =
      point.evaluate x ((s.context b others).addAll rs') true := by
    simp only [Session.evaluateItem, own, read, loaded, found, pointOf_eq_ok.2 known, available,
      dependencies, ordered, evaluated, Outcome.of, ok_bind]
  rw [preview, ← e]
  have fallback : (s.context b others).fallback = (s.context b submissions).fallback := rfl
  refine sound.evaluate_congr known (.of_values (by simp [fallback]) fun n hn => ?_) x true
  rw [(pre.agree sound spec (.inl rfl)).values n hn]
  exact Context.values_addAll_perm ((perm.map _).symm.nodup (names.symm.nodup once)) perm

/-- A preview comes to the result that a submission stores, unless the submission changes the
numbers of a stored item that the item, or one of the request that it needs, reads. -/
theorem preview_eq_submitted {id : String} {items rest : List Json} {item : Json}
    {measuredBy : Option String} {completion : Completion}
    (accepted : product.check = .ok product) (loaded : s.batch id = .ok b)
    (found : s.product b.product = .ok product) (request : items.Perm (item :: rest))
    (read : Submission.parseAll items = .ok submissions) (own : Submission.parse item = .ok x)
    (submitted : s.submitBatch id items measuredBy = .ok (completion, s'))
    (stable : ∀ y, y = x.item ∨ product.Needs (submissions.map Submission.item) x.item y →
      ∀ z ∈ product.reads y, z ∉ submissions.map Submission.item →
        ∀ old new, b.result? z = some old → completion.batch.result? z = some new →
          new.sampleValues ≠ [] → old.sampleValues = new.sampleValues) :
    ∃ r, completion.batch.result? x.item = some r ∧ s.evaluateItem id item rest = .ok r := by
  obtain ⟨-, sound⟩ := Product.sound_of_check accepted
  obtain ⟨submissions', rs, read', -, settles, completed, -⟩ :=
    settles_of_submitBatch sound loaded found submitted
  obtain rfl : submissions = submissions' := Except.ok.inj (read.symm.trans read')
  obtain ⟨-, -, -, shape⟩ := Batch.complete_eq_ok.1 completed
  have same : ∀ n, completion.batch.result? n = (b.putAll rs).result? n := by
    intro n
    rw [shape]
    rfl
  -- the request is read in the order in which the preview is asked for
  obtain ⟨reordered, read'', perm⟩ := Submission.parseAll_perm request read
  obtain ⟨others, rfl, readRest⟩ := Submission.parseAll_cons own read''
  have pre : s.Previewed product b submissions x others rs :=
    { settles := settles
      request := perm
      distinct := (Submission.parseAll_eq_ok.1 read).2
      stable := by simpa only [same] using stable }
  have mem : x ∈ submissions := perm.symm.subset List.mem_cons_self
  obtain ⟨r, hr, name⟩ := List.mem_map.1 (settles.items.symm.subset
    (mem_keys_handedIn.2 (.inl (List.mem_map_of_mem mem))))
  refine ⟨r, ?_, pre.evaluateItem sound loaded found own readRest hr name⟩
  rw [same, ← name]
  exact Batch.result?_putAll_of_mem settles.distinct hr

end Session

namespace Plate

open Session

/-- The preview of a check comes to the result that its submission stores. -/
theorem preview_eq_submitted_check : ∃ completion s' r,
    (session saved).submitBatch saved.id [document "check" []] none = .ok (completion, s') ∧
      completion.batch.result? "check" = some r ∧
      (session saved).evaluateItem saved.id (document "check" []) [] = .ok r := by
  have own : Submission.parse (document "check" []) = .ok (submission "check" []) := by rfl
  have read : Submission.parseAll [document "check" []] = .ok [submission "check" []] := by rfl
  have found : (session saved).product saved.product = .ok product := product_session saved
  obtain ⟨completion, s', submitted, held⟩ := completes (by rfl) (by rfl) reachable_saved.distinct
    read settles_check (by simp [results])
  have stable : ∀ z old new, saved.result? z = some old → completion.batch.result? z = some new →
      old.sampleValues = new.sampleValues := by
    intro z old new before after
    have there : old ∈ results 1.0 :=
      List.mem_append_left [good "check" 1.0] (Batch.mem_of_result? before).1
    rw [sampleValues_of_mem there,
      sampleValues_of_mem (held.subset (Batch.mem_of_result? after).1)]
  obtain ⟨r, stored, preview⟩ := preview_eq_submitted accepted (batch_session saved) found (.refl _)
    read own submitted fun _ _ z _ _ old new before after _ => stable z old new before after
  exact ⟨completion, s', r, submitted, stored, preview⟩

/-- A thickness that is measured anew settles the batch with the check, and changes the copy. -/
lemma settles_again : (session saved).Settles product saved
    [submission "check" [], submission "thickness" [2.0]] (results 2.0) where
  items := by decide
  fits := by
    simp only [Judging.Fits, results, List.forall_mem_cons]
    exact ⟨by rfl, by rfl, by rfl, by simp⟩

/-- The preview of a check reads the copy of the thickness as it was saved. -/
lemma evaluateItem_check : (session saved).evaluateItem saved.id (document "check" [])
    [document "thickness" [2.0]] = .ok (good "check" 1.0) := by
  have own : Submission.parse (document "check" []) = .ok (submission "check" []) := by rfl
  have read : Submission.parseAll [document "thickness" [2.0]] =
      .ok [submission "thickness" [2.0]] := by rfl
  have loaded := batch_session saved
  have found : (session saved).product saved.product = .ok product := product_session saved
  have known : pointOf product (submission "check" []).item =
      .ok (point "check" .derived (some "copy")) := by rfl
  have keys : (othersOf (point "check" .derived (some "copy"))
      [submission "thickness" [2.0]]).keys = ["thickness"] := by rfl
  have needed : product.requestDependencies (point "check" .derived (some "copy")) ["thickness"] =
      .ok [] := by
    have reads : (point "check" .derived (some "copy")).itemReferences = .ok ["copy"] := by rfl
    simp [Product.requestDependencies, reads, Product.reachable]
  have order : product.evaluationOrder [] = .ok [] := by
    rw [Product.evaluationOrder, Product.placeItems]
  simp only [Session.evaluateItem, own, read, loaded, found, known, keys, needed, order, Outcome.of,
    ok_bind]
  rfl

/-- A preview may come to another result than the submission: where an item reads a stored one that
is derived from an item of the request, the preview does not derive that one again. -/
theorem preview_may_differ : ¬∀ (s s' : Session) (p : Product) (b : Batch) (id : String)
    (items rest : List Json) (item : Json) (x : Submission) (measuredBy : Option String)
    (completion : Completion), p.check = .ok p → b.Reachable p → s.batch id = .ok b →
      s.product b.product = .ok p → items.Perm (item :: rest) → Submission.parse item = .ok x →
      s.submitBatch id items measuredBy = .ok (completion, s') →
        ∃ r, completion.batch.result? x.item = some r ∧ s.evaluateItem id item rest = .ok r := by
  intro same
  have own : Submission.parse (document "check" []) = .ok (submission "check" []) := by rfl
  have read : Submission.parseAll [document "check" [], document "thickness" [2.0]] =
      .ok [submission "check" [], submission "thickness" [2.0]] := by rfl
  have found : (session saved).product saved.product = .ok product := product_session saved
  obtain ⟨completion, s', submitted, held⟩ := completes (by rfl) (by rfl) reachable_saved.distinct
    read settles_again (by simp [results])
  obtain ⟨r, stored, preview⟩ := same _ _ _ _ _ _ _ _ _ _ _ accepted reachable_saved
    (batch_session saved) found (.refl _) own submitted
  rw [evaluateItem_check] at preview
  cases preview
  have numbers := sampleValues_of_mem (held.subset (Batch.mem_of_result? stored).1)
  exact absurd numbers (by decide)

end Plate

end Inspection
