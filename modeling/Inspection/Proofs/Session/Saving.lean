import Inspection.Proofs.Diagnostics
import Inspection.Proofs.Session.Submitting

/-!
# Saving as a sequence

Saving keeps a result of each submitted item: the evaluated one, without its status where samples
are missing, or the raw data alone where it cannot be evaluated (`Point.keep`). So the results that
are saved are those that fit, and what is found about an item depends on what it sees of them only
(`saves_of_saveProgress`). Saving goes on after every error; `Point.keep_ne_error` says that only a
fault of another kind ends it.
-/

namespace Inspection

namespace Point

/-- What is kept of an evaluated item: it has a status only with the full number of samples. -/
def keepResult (p : Point) (r : Result) : Result :=
  if r.samples.length < p.setup.sampleAmount.val then { r with status := none } else r

/-- What is kept of an item. -/
def keep (p : Point) (x : Submission) (c : Context) : Outcome Result :=
  if !(x.validate p false).isValid then .ok (.unevaluated p x)
  else
    match p.evaluate x c false with
    | .ok r => .ok (p.keepResult r)
    | .error (.error _) => .ok (.unevaluated p x)
    | .error fault => .error fault

/-- What is noted of an evaluated item. -/
def noteResult (p : Point) (r : Result) (d : Diagnostics) : Diagnostics :=
  let amount := p.setup.sampleAmount.val
  if r.status.isNone then
    d.addWarning ⟨.evaluation, .awaitingInstrument, "Waiting for instrument data", some p.name,
      none, none⟩
  else if r.samples.length < amount then
    d.addWarning ⟨.evaluation, .incomplete,
      toString r.samples.length ++ " of " ++ toString amount ++ " samples submitted", some p.name,
      none, none⟩
  else d.markEvaluated p.name

/-- What is noted of an item. -/
def note (p : Point) (x : Submission) (c : Context) (d : Diagnostics) : Diagnostics :=
  let validation := x.validate p false
  let d := d.addValidation validation
  if !validation.isValid then d
  else
    match p.evaluate x c false with
    | .ok r => p.noteResult r d
    | .error (.error e) => d.addFailure (some p.name) e
    | .error _ => d

variable {p : Point} {x : Submission} {c : Context}

/-- Keeping a result may take its status away, but nothing else. -/
lemma keepResult_eq {r : Result} : ∃ status, p.keepResult r = { r with status := status } := by
  rw [keepResult]
  split
  case isTrue => exact ⟨none, rfl⟩
  case isFalse => exact ⟨r.status, rfl⟩

/-- What is kept of an item is its result, or its raw data alone. -/
lemma keep_eq_ok {r : Result} (h : p.keep x c = .ok r) :
    r = .unevaluated p x ∨ ∃ r', p.evaluate x c false = .ok r' ∧ r = p.keepResult r' := by
  rw [keep] at h
  split at h
  case isTrue =>
    cases h
    exact .inl rfl
  case isFalse =>
    split at h
    case h_1 r' e =>
      cases h
      exact .inr ⟨r', e, rfl⟩
    case h_2 =>
      cases h
      exact .inl rfl
    case h_3 => cases h

/-- No error ends a saving. -/
lemma keep_ne_error {e : Error} : p.keep x c ≠ .error (.error e) := by
  rw [keep]
  split
  case isTrue => exact nofun
  case isFalse =>
    split
    case h_1 => exact nofun
    case h_2 => exact nofun
    case h_3 fault other _ =>
      intro h
      cases h
      exact other _ rfl

/-- What is kept of an item depends on the context only as its evaluation does. -/
lemma keep_congr {d : Context} (same : p.evaluate x c false = p.evaluate x d false) :
    p.keep x c = p.keep x d := by
  rw [keep, keep, same]

/-- What is noted of an item depends on the context only as its evaluation does. -/
lemma note_congr {d : Context} (same : p.evaluate x c false = p.evaluate x d false)
    (diagnostics : Diagnostics) : p.note x c diagnostics = p.note x d diagnostics := by
  rw [note, note, same]

/-- What is kept of an item is for its point. -/
lemma item_of_keep {r : Result} (h : p.keep x c = .ok r) : r.item = p.name := by
  rw [keep] at h
  split at h
  case isTrue =>
    cases h
    rfl
  case isFalse =>
    split at h
    case h_1 r' e =>
      obtain ⟨raw, ev, -⟩ := evaluated_of_evaluate e
      cases h
      rw [keepResult]
      split
      case isTrue => exact ev.item
      case isFalse => exact ev.item
    case h_2 =>
      cases h
      rfl
    case h_3 => cases h

/-- What is noted of an evaluated item is about it. -/
lemma about_noteResult (r : Result) : Diagnostics.About p.name (p.noteResult r) := by
  unfold noteResult
  dsimp only
  split
  case isTrue => exact Diagnostics.about_addWarning rfl
  case isFalse =>
    split
    case isTrue => exact Diagnostics.about_addWarning rfl
    case isFalse => exact Diagnostics.about_markEvaluated

/-- What is noted of an item is about it. -/
lemma about_note : Diagnostics.About p.name (p.note x c) := by
  have validated := Diagnostics.about_addValidation (x.validate p false)
  unfold note
  dsimp only
  split
  case isTrue => exact validated
  case isFalse =>
    split
    case h_1 => exact validated.comp (about_noteResult _)
    case h_2 => exact validated.comp (Diagnostics.about_addFailure _)
    case h_3 => exact validated

end Point

namespace Saving

/-- An evaluated result is kept and noted by its status and the number of its samples. -/
lemma keepEvaluated_eq (s : Saving) (p : Point) (r : Result) :
    s.keepEvaluated p r =
      { s with diagnostics := p.noteResult r s.diagnostics }.keep (p.keepResult r) := by
  simp only [keepEvaluated, Point.noteResult, Point.keepResult]
  cases status : r.status with
  | none =>
    have same : { r with status := none } = r := by rw [← status]
    rw [same, ite_self]
    rfl
  | some status' =>
    simp only [Option.isNone_some]
    by_cases few : r.samples.length < p.setup.sampleAmount.val
    · simp [few]
    · simp [few]

/-- Saving one more item keeps its result and notes what was found. -/
lemma evaluate_eq (s : Saving) (p : Point) (x : Submission) :
    s.evaluate p x = (p.keep x s.context).map fun r =>
      ⟨s.context.addResult r, p.note x s.context s.diagnostics, s.results ++ [r]⟩ := by
  rw [evaluate, Point.keep, Point.note]
  by_cases valid : (x.validate p false).isValid
  · simp only [valid]
    cases p.evaluate x s.context false with
    | ok r => exact congrArg Except.ok (keepEvaluated_eq _ p r)
    | error fault =>
      cases fault with
      | error e => rfl
      | _ => rfl
  · simp only [valid]
    rfl

end Saving

namespace Judging

open Session

variable {product : Product} {submissions : Table Submission}

/-- What is kept of what was handed in. -/
def saving (product : Product) (submissions : Table Submission) : Judging := fun n c => do
  let point ← pointOf product n
  point.keep (submissionFor submissions n) c

/-- When an item is kept. -/
lemma saving_eq_ok {n : String} {c : Context} {r : Result} :
    saving product submissions n c = .ok r ↔ ∃ point, product.point? n = some point ∧
      point.keep (submissionFor submissions n) c = .ok r := by
  simp only [saving, bind_eq_ok, pointOf_eq_ok]

/-- What is kept is for its item. -/
lemma item_of_saving {n : String} {c : Context} {r : Result}
    (h : saving product submissions n c = .ok r) : r.item = n := by
  obtain ⟨point, found, e⟩ := saving_eq_ok.1 h
  rw [Point.item_of_keep e, (Product.point?_eq_some found).2]

/-- What is kept depends only on what the items of a sound product read. -/
lemma saving_local (sound : product.Sound) : (saving product submissions).Local product where
  item := item_of_saving
  congr {n c d} agree := by
    cases found : product.point? n with
    | none => simp [saving, pointOf, found, raise]
    | some point =>
      simp [saving, pointOf, found, Point.keep_congr (sound.evaluate_congr found agree _ false)]

end Judging

namespace Session

variable {s s' : Session} {product : Product} {b : Batch} {id : String} {items : List Json}
  {progress : Progress}

/-- What is noted of an item of a product. -/
def noteOf (product : Product) (submissions : Table Submission) (n : String) (c : Context)
    (d : Diagnostics) : Diagnostics :=
  match product.point? n with
  | some point => point.note (submissionFor submissions n) c d
  | none => d

/-- What is noted of items one after the other, each in sight of the results before it. -/
def notes (product : Product) (submissions : Table Submission) :
    Context → Diagnostics → List Result → Diagnostics
  | _, d, [] => d
  | c, d, r :: rest =>
    notes product submissions (c.addResult r) (noteOf product submissions r.item c d) rest

/-- What is noted of an item is about it. -/
lemma about_noteOf {submissions : Table Submission} {n : String} {c : Context} :
    Diagnostics.About n (noteOf product submissions n c) := by
  unfold noteOf
  cases found : product.point? n with
  | none => exact ⟨fun _ => .refl, fun same => same⟩
  | some point =>
    obtain ⟨-, rfl⟩ := Product.point?_eq_some found
    exact Point.about_note

/-- What is noted of an item depends only on what it reads. -/
lemma noteOf_congr (sound : product.Sound) {submissions : Table Submission} {n : String}
    {c d : Context} (agree : Context.Agree (product.reads n) c d) (diagnostics : Diagnostics) :
    noteOf product submissions n c diagnostics = noteOf product submissions n d diagnostics := by
  unfold noteOf
  cases found : product.point? n with
  | none => rfl
  | some point => exact Point.note_congr (sound.evaluate_congr found agree _ false) diagnostics

/-- Saving items one after the other is a sequence, with a note of each item. -/
lemma saving_evaluateAll_eq {submissions : Table Submission} {saving : Saving}
    {order : List String} (listed : ∀ n ∈ order, n ∈ submissions.keys) :
    saving.evaluateAll product submissions order =
      (sequence (.saving product submissions) saving.context order).map fun rs =>
        ⟨saving.context.addAll rs,
          notes product submissions saving.context saving.diagnostics rs,
          saving.results ++ rs⟩ := by
  induction order generalizing saving with
  | nil =>
    rw [Saving.evaluateAll, sequence]
    simp [Except.map, notes]
  | cons n rest ih =>
    obtain ⟨x, there⟩ := Table.mem_keys.1 (listed n List.mem_cons_self)
    have ih' := fun saving => @ih saving fun m mem => listed m (List.mem_cons_of_mem _ mem)
    have own : submissionFor submissions n = x := by rw [submissionFor, there, Option.getD_some]
    rw [Saving.evaluateAll, sequence, Judging.saving, own]
    cases found : product.point? n with
    | none => simp [pointOf, found, raise, Except.map]
    | some point =>
      rw [pointOf_eq_ok.2 found, ok_bind, ok_bind, there]
      dsimp only
      rw [Saving.evaluate_eq]
      cases kept : point.keep x saving.context with
      | error fault => rfl
      | ok r =>
        have name : r.item = n := by
          rw [Point.item_of_keep kept, (Product.point?_eq_some found).2]
        have noted : noteOf product submissions r.item saving.context saving.diagnostics =
            point.note x saving.context saving.diagnostics := by
          rw [noteOf, name, found, own]
        dsimp only [Except.map]
        rw [ok_bind, ok_bind, ih']
        cases sequence (.saving product submissions) (saving.context.addResult r) rest with
        | error fault => rfl
        | ok others => simp [Except.map, notes, noted, pure, Except.pure]

/-- What is noted in a sequence about an item is what is noted of it in sight of all results. -/
lemma same_notes (sound : product.Sound) {submissions : Table Submission} {c : Context}
    {d : Diagnostics} {rs : List Result} (distinct : (rs.map Result.item).Nodup)
    (after : (rs.map Result.item).Pairwise fun a b => b ∉ product.reads a) {n : String} :
    (n ∉ rs.map Result.item → Diagnostics.Same n (notes product submissions c d rs) d) ∧
    (n ∈ rs.map Result.item → Diagnostics.Same n (notes product submissions c d rs)
      (noteOf product submissions n (c.addAll rs) d)) := by
  induction rs generalizing c d with
  | nil => exact ⟨fun _ => .refl, by simp⟩
  | cons r rest ih =>
    rw [List.map_cons, List.nodup_cons] at distinct
    rw [List.map_cons, List.pairwise_cons] at after
    have step := @ih (c.addResult r) (noteOf product submissions r.item c d) distinct.2 after.2
    rw [List.map_cons, List.mem_cons, not_or]
    constructor
    · rintro ⟨other, out⟩
      exact (step.1 out).trans (about_noteOf.frame other)
    · rintro (rfl | mem)
      -- the item reads none of the results from its own on
      · have unread : ∀ b ∈ product.reads r.item, b ∉ (r :: rest).map Result.item :=
          sound.notMem_of_after after.1
        rw [noteOf_congr sound (Context.agree_addAll unread)]
        exact step.1 distinct.1
      · have other : n ≠ r.item := by
          rintro rfl
          exact distinct.1 mem
        exact (step.2 mem).trans (about_noteOf.congr (about_noteOf.frame other))

/-- Results that are kept of the submissions of a request: one for each, and each what is kept in
sight of them all. -/
structure Saves (s : Session) (product : Product) (b : Batch) (submissions : List Submission)
    (rs : List Result) : Prop where
  items : (rs.map Result.item).Perm (submissions.map Submission.item)
  fits : (Judging.saving product (Submission.table submissions)).Fits (s.context b submissions) rs

/-- Of each submission something is kept. -/
lemma Saves.of_mem {submissions : List Submission} {rs : List Result}
    (saves : s.Saves product b submissions rs)
    (distinct : (submissions.map Submission.item).Nodup) {x : Submission} (mem : x ∈ submissions) :
    ∃ r ∈ rs, r.item = x.item ∧ ∃ point c, product.point? x.item = some point ∧
      point.keep x c = .ok r := by
  obtain ⟨r, hr, name⟩ := List.mem_map.1 (saves.items.symm.subset (List.mem_map_of_mem mem))
  obtain ⟨point, found, kept⟩ := Judging.saving_eq_ok.1 (saves.fits r hr)
  rw [name] at found
  rw [submissionFor, name, (Submission.find?_table distinct).2 ⟨mem, rfl⟩,
    Option.getD_some] at kept
  exact ⟨r, hr, name, point, _, found, kept⟩

/-- What is found when results are kept: of each item what is noted of it in sight of them all, and
of other items nothing. -/
structure Finds (s : Session) (product : Product) (b : Batch) (submissions : List Submission)
    (rs : List Result) (found : Diagnostics) : Prop where
  noted : ∀ n ∈ rs.map Result.item, Diagnostics.Same n found
    (noteOf product (Submission.table submissions) n ((s.context b submissions).addAll rs) .empty)
  others : ∀ n ∉ rs.map Result.item, Diagnostics.Same n found .empty

/-- Saving items in an arrangement keeps the results that fit, with what is found about each. -/
lemma evaluateAll_of_arrangement (sound : product.Sound) {submissions : List Submission}
    (distinct : (submissions.map Submission.item).Nodup) {order : List String}
    (arranged : product.Arrangement (submissions.map Submission.item) order) {saving : Saving}
    (h : Saving.evaluateAll product (Submission.table submissions)
      ⟨s.context b submissions, .empty, []⟩ order = .ok saving) :
    s.Saves product b submissions saving.results ∧
      s.Finds product b submissions saving.results saving.diagnostics := by
  have listed : ∀ n ∈ order, n ∈ (Submission.table submissions).keys :=
    fun n mem => Submission.mem_keys_table.2 (arranged.perm.subset mem)
  rw [saving_evaluateAll_eq listed] at h
  cases judged : sequence (.saving product (Submission.table submissions))
      (s.context b submissions) order with
  | error fault =>
    rw [judged] at h
    cases h
  | ok rs =>
    rw [judged] at h
    cases h
    have once := arranged.perm.symm.nodup distinct
    obtain ⟨names, fits⟩ :=
      (sequence_eq_ok sound (Judging.saving_local sound) once arranged.after).1 judged
    have same := fun n => @same_notes product sound (Submission.table submissions)
      (s.context b submissions) .empty rs (names ▸ once) (names ▸ arranged.after) n
    dsimp only
    rw [List.nil_append]
    exact ⟨⟨names ▸ arranged.perm, fits⟩, fun n => (same n).2, fun n => (same n).1⟩

/-- A saving that succeeds keeps results of the submissions, and reports what was found. -/
theorem saves_of_saveProgress (sound : product.Sound) (loaded : s.batch id = .ok b)
    (found : s.product b.product = .ok product)
    (h : s.saveProgress id items = .ok (progress, s')) :
    ∃ submissions rs diagnostics, Submission.parseAll items = .ok submissions ∧ b.status.isOpen ∧
      s.Saves product b submissions rs ∧ s.Finds product b submissions rs diagnostics ∧
      b.save rs (some (diagnostics.report id b.product)) = .ok progress ∧
      s.save progress.batch = .ok s' := by
  obtain ⟨submissions, product', order, saving, read, isOpen, found', e, kept, done, stored⟩ :=
    saveProgress_steps loaded h
  obtain rfl : product = product' := Except.ok.inj (found.symm.trans found')
  have distinct := (Submission.parseAll_eq_ok.1 read).2
  obtain ⟨order', e', arranged⟩ := sound.arrangement_evaluationOrder distinct
  rw [← Submission.keys_table distinct] at e'
  obtain rfl : order = order' := Except.ok.inj (e.symm.trans e')
  obtain ⟨saves, finds⟩ := evaluateAll_of_arrangement sound distinct arranged kept
  exact ⟨submissions, saving.results, saving.diagnostics, read, isOpen, saves, finds, done, stored⟩

/-- How the saving of readable submissions for an open batch goes on: the items are saved in an
arrangement. -/
lemma saveProgress_eq (sound : product.Sound) (loaded : s.batch id = .ok b)
    (found : s.product b.product = .ok product) {submissions : List Submission}
    (read : Submission.parseAll items = .ok submissions) (isOpen : b.status.isOpen)
    (known : ∀ n ∈ submissions.map Submission.item, ∃ point, product.point? n = some point) :
    ∃ order, product.Arrangement (submissions.map Submission.item) order ∧
      s.saveProgress id items = (do
        let saving ← Saving.evaluateAll product (Submission.table submissions)
          ⟨s.context b submissions, .empty, []⟩ order
        let progress ← Outcome.of .error
          (b.save saving.results (some (saving.diagnostics.report id b.product)))
        return (progress, ← s.save progress.batch)) := by
  have distinct := (Submission.parseAll_eq_ok.1 read).2
  obtain ⟨order, e, arranged⟩ := sound.arrangement_evaluationOrder distinct
  rw [← Submission.keys_table distinct, Submission.table] at e
  obtain ⟨points, all⟩ : ∃ points,
      submissions.mapM (fun x => pointOf product x.item) = .ok points := by
    refine mapM_of_forall fun x mem => ?_
    obtain ⟨point, there⟩ := known x.item (List.mem_map_of_mem mem)
    exact ⟨point, pointOf_eq_ok.2 there⟩
  refine ⟨order, arranged, ?_⟩
  simp only [saveProgress, read, loaded, found, requireOpen, isOpen, all, e, Outcome.of, ok_bind,
    if_true, Submission.table]

/-- Where there are results to be kept of a request for an open batch, saving keeps them. -/
theorem saveProgress_of_saves (sound : product.Sound) (loaded : s.batch id = .ok b)
    (found : s.product b.product = .ok product) {submissions : List Submission} {rs : List Result}
    (read : Submission.parseAll items = .ok submissions) (isOpen : b.status.isOpen)
    (saves : s.Saves product b submissions rs) (storable : s.Storable b.id) :
    ∃ rs' diagnostics progress s', rs'.Perm rs ∧ s.Finds product b submissions rs' diagnostics ∧
      b.save rs' (some (diagnostics.report id b.product)) = .ok progress ∧
      s.save progress.batch = .ok s' ∧ s.saveProgress id items = .ok (progress, s') := by
  have distinct := (Submission.parseAll_eq_ok.1 read).2
  have known : ∀ n ∈ submissions.map Submission.item, ∃ point, product.point? n = some point := by
    intro n mem
    obtain ⟨r, hr, rfl⟩ := List.mem_map.1 (saves.items.symm.subset mem)
    obtain ⟨point, there, -⟩ := Judging.saving_eq_ok.1 (saves.fits r hr)
    exact ⟨point, there⟩
  obtain ⟨order, arranged, e⟩ := saveProgress_eq sound loaded found read isOpen known
  obtain ⟨rs', judged, perm⟩ := sequence_of_fits sound (Judging.saving_local sound) distinct
    arranged saves.items saves.fits
  have listed : ∀ n ∈ order, n ∈ (Submission.table submissions).keys :=
    fun n mem => Submission.mem_keys_table.2 (arranged.perm.subset mem)
  obtain ⟨diagnostics, kept⟩ : ∃ diagnostics, Saving.evaluateAll product
      (Submission.table submissions) ⟨s.context b submissions, .empty, []⟩ order =
        .ok ⟨(s.context b submissions).addAll rs', diagnostics, rs'⟩ := by
    rw [saving_evaluateAll_eq listed, judged]
    exact ⟨_, rfl⟩
  obtain ⟨-, finds⟩ := evaluateAll_of_arrangement sound distinct arranged kept
  obtain ⟨progress, done⟩ : ∃ progress,
      b.save rs' (some (diagnostics.report id b.product)) = .ok progress :=
    ⟨_, Batch.save_eq_ok.2 ⟨isOpen, rfl⟩⟩
  obtain ⟨s', saved⟩ := storable progress.batch (Batch.id_of_save done)
  refine ⟨rs', diagnostics, progress, s', perm, finds, done, saved, ?_⟩
  rw [e, kept, ok_bind, done, Outcome.of, ok_bind, saved]
  rfl

end Session

end Inspection
