import Inspection.Proofs.Evaluation.Results
import Inspection.Proofs.Session.Reachable
import Inspection.Proofs.Session.Sequence

/-!
# Submitting as a sequence

A submitted batch is completed with results that fit: each is the complete evaluation of what was
handed in for its item, in sight of all of them (`Judging.complete`). What a
submission comes to settles the batch (`settles_of_submitBatch`), and where there are results that
settle it, a submission completes the batch with them (`submitBatch_of_settles`).
-/

namespace Inspection

/-- What is handed in for an item; without a submission, no samples. -/
def submissionFor (submissions : Table Submission) (n : String) : Submission :=
  (submissions.find? n).getD ⟨n, .empty, []⟩

namespace Product

/-- The point of an item of a sound product sees only what the item reads. -/
lemma Sound.evaluate_congr {p : Product} (sound : p.Sound) {n : String} {point : Point}
    (found : p.point? n = some point) {c d : Context} (agree : Context.Agree (p.reads n) c d)
    (s : Submission) (complete : Bool) :
    point.evaluate s c complete = point.evaluate s d complete := by
  refine Point.evaluate_congr (sound.points point (point?_eq_some found).1) ?_ agree s complete
  rw [← references_of_point? found, references_eq_ok sound.points]

/-- The result of an item's point is for the item. -/
lemma item_of_evaluate {p : Product} {n : String} {point : Point} (found : p.point? n = some point)
    {s : Submission} {c : Context} {complete : Bool} {r : Result}
    (h : point.evaluate s c complete = .ok r) : r.item = n := by
  obtain ⟨raw, ev, -⟩ := Point.evaluated_of_evaluate h
  rw [ev.item, (point?_eq_some found).2]

end Product

namespace Judging

open Session

variable {product : Product} {submissions : Table Submission}

/-- The complete evaluation of what was handed in, which has to come to a status. -/
def complete (product : Product) (submissions : Table Submission) : Judging := fun n c => do
  let point ← pointOf product n
  let r ← point.evaluate (submissionFor submissions n) c true
  if r.status.isNone then raise (.validation (.text n) .awaitingInstrument) else return r

/-- When an item is judged completely. -/
lemma complete_eq_ok {n : String} {c : Context} {r : Result} :
    complete product submissions n c = .ok r ↔ ∃ point, product.point? n = some point ∧
      point.evaluate (submissionFor submissions n) c true = .ok r ∧ r.status.isSome := by
  simp only [complete, bind_eq_ok, pointOf_eq_ok]
  constructor
  · rintro ⟨point, found, r', e, h⟩
    cases status : r'.status with
    | none =>
      rw [status] at h
      cases h
    | some status' =>
      rw [status] at h
      cases pure_eq_ok.1 h
      exact ⟨point, found, e, by rw [status]; rfl⟩
  · rintro ⟨point, found, e, status⟩
    refine ⟨point, found, r, e, ?_⟩
    rw [if_neg (by simpa [Option.isSome_iff_ne_none] using status)]
    rfl

/-- Complete evaluations see only what the items of a sound product read. -/
lemma complete_local (sound : product.Sound) : (complete product submissions).Local product where
  item h := by
    obtain ⟨point, found, e, -⟩ := complete_eq_ok.1 h
    exact Product.item_of_evaluate found e
  congr {n c d} agree := by
    cases found : product.point? n with
    | none => simp [complete, pointOf, found, raise]
    | some point => simp [complete, pointOf, found, sound.evaluate_congr found agree]

end Judging

namespace Session

variable {product : Product} {s s' : Session} {b : Batch} {id : String} {items : List Json}
  {measuredBy : Option String} {completion : Completion}

/-- Complete evaluations of items one after the other are a sequence. -/
lemma evaluateComplete_eq {submissions : Table Submission} {c : Context} {order : List String}
    (listed : ∀ n ∈ order, n ∈ submissions.keys) :
    evaluateComplete product submissions c order =
      sequence (.complete product submissions) c order := by
  induction order generalizing c with
  | nil => rfl
  | cons n rest ih =>
    obtain ⟨x, there⟩ := Table.mem_keys.1 (listed n List.mem_cons_self)
    have ih' := fun c => @ih c fun m mem => listed m (List.mem_cons_of_mem _ mem)
    rw [evaluateComplete, sequence, Judging.complete]
    cases pointOf product n with
    | error fault => rfl
    | ok point =>
      simp only [ok_bind, there, submissionFor, Option.getD_some]
      cases point.evaluate x c true with
      | error fault => rfl
      | ok r =>
        simp only [ok_bind, ih']
        split
        case isTrue => rfl
        case isFalse => rfl

/-- An item is handed in just if it is submitted or stored. -/
lemma mem_keys_handedIn {submissions : List Submission} {n : String} :
    n ∈ (handedIn product b submissions).keys ↔
      n ∈ submissions.map Submission.item ∨ n ∈ b.results.map Result.item := by
  rw [handedIn, mem_keys_addStored, Submission.mem_keys_table]

/-- What is submitted for an item is handed in for it. -/
lemma find?_handedIn {submissions : List Submission} {x : Submission}
    (distinct : (submissions.map Submission.item).Nodup) (mem : x ∈ submissions) :
    (handedIn product b submissions).find? x.item = some x := by
  rw [handedIn, find?_addStored, (Submission.find?_table distinct).2 ⟨mem, rfl⟩, Option.some_or]

/-- Results that a batch can be completed with: one for each item handed in, and each the complete
evaluation in sight of them all. -/
structure Settles (s : Session) (product : Product) (b : Batch) (submissions : List Submission)
    (rs : List Result) : Prop where
  items : (rs.map Result.item).Perm (handedIn product b submissions).keys
  fits : (Judging.complete product (handedIn product b submissions)).Fits
    (s.context b submissions) rs

/-- The results that settle a batch are for distinct items. -/
lemma Settles.distinct {submissions : List Submission} {rs : List Result}
    (settles : s.Settles product b submissions rs) : (rs.map Result.item).Nodup :=
  settles.items.symm.nodup (Table.keys_nodup _)

/-- Results settle a batch in every order. -/
lemma Settles.of_perm (sound : product.Sound) {submissions : List Submission}
    {rs rs' : List Result} (settles : s.Settles product b submissions rs) (perm : rs'.Perm rs) :
    s.Settles product b submissions rs' where
  items := (perm.map _).trans settles.items
  fits := settles.fits.perm (Judging.complete_local sound) settles.distinct perm

/-- Results settle a batch wherever the same is handed in and seen. -/
lemma Settles.congr (sound : product.Sound) {submissions submissions' : List Submission}
    {rs : List Result} {t : Session} {b' : Batch} (settles : s.Settles product b submissions rs)
    (same : ∀ n, (handedIn product b submissions).find? n =
      (handedIn product b' submissions').find? n)
    (agree : ∀ items, Context.Agree items ((s.context b submissions).addAll rs)
      ((t.context b' submissions').addAll rs)) : t.Settles product b' submissions' rs where
  items := settles.items.trans (Table.keys_perm same)
  fits r mem := by
    have judging : Judging.complete product (handedIn product b' submissions') =
        Judging.complete product (handedIn product b submissions) := by
      funext n c
      rw [Judging.complete, Judging.complete, submissionFor, submissionFor, same]
    rw [judging, ← settles.fits r mem]
    exact (Judging.complete_local sound).congr (agree _).symm

/-- A batch with one result for each stored item is completed with those that settle it only. -/
lemma Settles.putAll_perm {submissions : List Submission} {rs : List Result}
    (settles : s.Settles product b submissions rs) (stored : (b.results.map Result.item).Nodup) :
    (b.putAll rs).results.Perm rs := by
  rw [List.perm_ext_iff_of_nodup (Batch.distinct_putAll stored).of_map settles.distinct.of_map]
  intro r
  rw [Batch.mem_putAll stored settles.distinct, or_iff_left]
  rintro ⟨old, out⟩
  apply out
  exact settles.items.symm.subset (mem_keys_handedIn.2 (.inr (List.mem_map_of_mem old)))

/-- A batch is completed with just the results that settle it, and the verdict on them. -/
lemma Settles.completed {submissions : List Submission} {rs : List Result}
    (settles : s.Settles product b submissions rs) (stored : (b.results.map Result.item).Nodup)
    {now : Timestamp} (h : b.complete rs measuredBy now = .ok completion) :
    rs ≠ [] ∧ completion.batch.results.Perm rs ∧
      completion.batch.overall = some (rs.all fun r => r.status = some true) := by
  obtain ⟨-, filled, -, rfl⟩ := Batch.complete_eq_ok.1 h
  have held := settles.putAll_perm stored
  refine ⟨?_, held, congrArg some held.all_eq⟩
  rintro rfl
  exact filled (List.perm_nil.1 held)

/-- A submission that succeeds completes the batch with results that settle it. -/
theorem settles_of_submitBatch (sound : product.Sound) (loaded : s.batch id = .ok b)
    (found : s.product b.product = .ok product)
    (h : s.submitBatch id items measuredBy = .ok (completion, s')) :
    ∃ submissions rs, Submission.parseAll items = .ok submissions ∧ b.status.isOpen ∧
      s.Settles product b submissions rs ∧
      b.complete rs measuredBy s.now = .ok completion ∧ s.save completion.batch = .ok s' := by
  obtain ⟨submissions, product', order, rs, read, isOpen, found', e, judged, completed, stored⟩ :=
    submitBatch_steps loaded h
  obtain rfl : product = product' := Except.ok.inj (found.symm.trans found')
  have distinct := (handedIn product b submissions).keys_nodup
  obtain ⟨order', e', arranged⟩ := sound.arrangement_evaluationOrder distinct
  obtain rfl : order = order' := Except.ok.inj (e.symm.trans e')
  have listed : ∀ n ∈ order, n ∈ (handedIn product b submissions).keys :=
    fun n mem => arranged.perm.subset mem
  rw [evaluateComplete_eq listed, sequence_eq_ok sound (Judging.complete_local sound)
    (arranged.perm.symm.nodup distinct) arranged.after] at judged
  obtain ⟨names, fits⟩ := judged
  refine ⟨submissions, rs, read, isOpen, ⟨?_, fits⟩, completed, stored⟩
  rw [names]
  exact arranged.perm

/-- Where there are results that settle an open batch, a submission completes it with them. -/
theorem submitBatch_of_settles (sound : product.Sound) (loaded : s.batch id = .ok b)
    (found : s.product b.product = .ok product) {submissions : List Submission} {rs : List Result}
    (read : Submission.parseAll items = .ok submissions) (isOpen : b.status.isOpen)
    (stored : (b.results.map Result.item).Nodup) (settles : s.Settles product b submissions rs)
    (filled : rs ≠ []) (storable : s.Storable b.id) (measuredBy : Option String) :
    ∃ rs' completion s', rs'.Perm rs ∧ b.complete rs' measuredBy s.now = .ok completion ∧
      s.save completion.batch = .ok s' ∧
      s.submitBatch id items measuredBy = .ok (completion, s') := by
  have distinct := (handedIn product b submissions).keys_nodup
  obtain ⟨order, e, arranged⟩ := sound.arrangement_evaluationOrder distinct
  have listed : ∀ n ∈ order, n ∈ (handedIn product b submissions).keys :=
    fun n mem => arranged.perm.subset mem
  obtain ⟨rs', judged, perm⟩ := sequence_of_fits sound (Judging.complete_local sound) distinct
    arranged settles.items settles.fits
  obtain ⟨points, known⟩ : ∃ points,
      (handedIn product b submissions).keys.mapM (pointOf product) = .ok points := by
    refine mapM_of_forall fun n mem => ?_
    obtain ⟨r, hr, rfl⟩ := List.mem_map.1 (settles.items.symm.subset mem)
    obtain ⟨point, there, -⟩ := Judging.complete_eq_ok.1 (settles.fits r hr)
    exact ⟨point, pointOf_eq_ok.2 there⟩
  rw [← evaluateComplete_eq listed] at judged
  rw [handedIn, Submission.table] at known e judged
  have held := (settles.of_perm sound perm).putAll_perm stored
  obtain ⟨completion, completed⟩ : ∃ completion,
      b.complete rs' measuredBy s.now = .ok completion := by
    refine ⟨_, Batch.complete_eq_ok.2 ⟨isOpen, ?_, ?_, rfl⟩⟩
    · intro empty
      rw [empty] at held
      exact filled (List.perm_nil.1 (held.trans perm).symm)
    · intro r mem
      obtain ⟨-, -, -, status⟩ := Judging.complete_eq_ok.1
        (settles.fits r ((held.trans perm).subset mem))
      exact status
  obtain ⟨s', saved⟩ := storable completion.batch (Batch.id_of_complete completed)
  refine ⟨rs', completion, s', perm, completed, saved, ?_⟩
  simp only [submitBatch, read, loaded, found, requireOpen, isOpen, known, e, judged, completed,
    saved, Outcome.of, ok_bind, if_true]
  rfl

end Session

end Inspection
