import Inspection.Proofs.Session.Alike
import Inspection.Proofs.Session.Consistency

/-!
# How many samples a verdict rests on

A result has a status only if its measurement is complete. While the batch is open that means that
no sample is missing (`Point.enough_of_keep`), for more than enough may be saved. In a completed
batch it means the exact number of samples (`Point.count_of_evaluate`); but a derived item without
samples of its own takes over as many as its source has numbers, whatever number it asks for. Each
operation keeps this of the stored results (`Counted`), so it holds of every batch that can be
reached (`Batch.Reachable.counted`).
-/

namespace Inspection

namespace Point

/-- Every sample of the point comes to a number: single numbers are taken down, or formulas are
worked out over each sample. -/
def GivesNumbers (p : Point) : Prop :=
  p.sampleFormulas ≠ [] ∨ p.setup.nature = .quantitative ∧ p.setup.shape = .single

variable {p : Point} {x : Submission} {c : Context} {complete : Bool} {r : Result}

/-- What was evaluated has one number for each sample, where the point gives numbers. -/
lemma length_sampleValues (gives : p.GivesNumbers) (h : p.evaluate x c complete = .ok r) :
    r.sampleValues.length = r.samples.length := by
  obtain ⟨raw, ev, -, own⟩ := evaluated_of_evaluate h
  rw [Result.sampleValues, List.filterMap_length_eq_length]
  intro s mem
  rw [Option.isSome_iff_ne_none]
  intro none
  obtain ⟨noFormulas, noSingle⟩ := (ev.computed s mem).numericValue_eq_none.1 none
  rcases gives with formulas | ⟨measured, single⟩
  · exact formulas noFormulas
  have there : s.sample ∈ raw := by
    rw [← ev.raw]
    exact List.mem_map_of_mem mem
  rcases own with rfl | ⟨-, -, values, -, rfl⟩
  · have valid := (evaluate_eq_ok.1 h).1
    rw [Submission.validate, List.append_eq_nil_iff, List.append_eq_nil_iff] at valid
    have fine := issues_of_sampleIssues valid.1.2 s.sample there
    rw [Sample.issues, measured, single] at fine
    simp [noSingle] at fine
  · have single := single_of_numbered there
    rw [noSingle] at single
    cases single

/-- What is kept with a status has no sample missing. -/
lemma enough_of_keep (h : p.keep x c = .ok r) (judged : r.status.isSome) :
    p.setup.sampleAmount.val ≤ r.samples.length := by
  rcases keep_eq_ok h with rfl | ⟨r', -, rfl⟩
  · cases judged
  · rw [keepResult] at judged ⊢
    split at judged
    case isTrue => cases judged
    case isFalse enough =>
      rw [if_neg enough]
      exact Nat.le_of_not_lt enough

/-- A complete evaluation that comes to a status takes the exact number of samples, or derives one
from each number of its source. -/
lemma count_of_evaluate (h : p.evaluate x c true = .ok r) (judged : r.status.isSome) :
    r.samples.length = p.setup.sampleAmount.val ∨
      p.setup.source = .derived ∧ c.values (p.setup.derivedFrom.getD "") ≠ [] ∧
        r.samples.length = (c.values (p.setup.derivedFrom.getD "")).length := by
  obtain ⟨valid, ⟨given, e⟩ | ⟨-, -, rfl⟩ | ⟨-, derived, raw, found, e⟩⟩ := evaluate_eq_ok.1 h
  · obtain ⟨ev, -⟩ := Result.Evaluated.of_evaluateSamples e
    left
    rw [← List.length_map SampleResult.sample, ev.raw]
    by_contra other
    rw [Submission.validate, List.append_eq_nil_iff] at valid
    simp [given, other] at valid
  · cases judged
  · obtain ⟨ev, -⟩ := Result.Evaluated.of_evaluateSamples e
    obtain ⟨some, rfl⟩ := derivedSamples_eq_values found
    refine .inr ⟨derived, some, ?_⟩
    rw [← List.length_map SampleResult.sample, ev.raw, length_numbered]

end Point

/-- The result of a derived item has samples, and as many as the stored result of the source if each
of these comes to a number. -/
structure Batch.Copies (product : Product) (b : Batch) (p : Point) (r : Result) : Prop where
  derived : p.setup.source = .derived
  filled : r.samples ≠ []
  source : ∃ n y q, p.setup.derivedFrom = some n ∧ b.result? n = some y ∧
    product.point? n = some q ∧ (q.GivesNumbers → r.samples.length = y.samples.length)

/-- The number of samples behind a verdict. -/
structure Batch.Counted (product : Product) (b : Batch) (p : Point) (r : Result) : Prop where
  unfinished : b.status ≠ .completed → p.setup.sampleAmount.val ≤ r.samples.length
  finished : b.status = .completed →
    r.samples.length = p.setup.sampleAmount.val ∨ b.Copies product p r

/-- Every verdict of the batch rests on enough samples. -/
def Batch.Counts (product : Product) (b : Batch) : Prop :=
  ∀ r ∈ b.results, r.status.isSome → ∃ p, product.point? r.item = some p ∧ b.Counted product p r

/-- An open batch is not completed. -/
lemma BatchStatus.ne_completed {status : BatchStatus} (isOpen : status.isOpen) :
    status ≠ .completed := by
  rintro rfl
  cases isOpen

namespace Session

variable {s s' : Session} {product : Product} {b : Batch} {id : String} {items : List Json}
  {submissions : List Submission} {rs : List Result}

/-- Saving keeps the verdicts that rest on enough samples, and adds no others. -/
lemma counts_of_saveProgress {progress : Progress} (sound : product.Sound)
    (loaded : s.batch id = .ok b) (found : s.product b.product = .ok product)
    (distinct : (b.results.map Result.item).Nodup) (counts : b.Counts product)
    (h : s.saveProgress id items = .ok (progress, s')) : progress.batch.Counts product := by
  obtain ⟨submissions, rs, _, read, isOpen, saves, -, done, -⟩ :=
    saves_of_saveProgress sound loaded found h
  obtain ⟨-, rfl⟩ := Batch.save_eq_ok.1 done
  have kept : (rs.map Result.item).Nodup :=
    saves.items.symm.nodup (Submission.parseAll_eq_ok.1 read).2
  intro r mem judged
  rcases (Batch.mem_putAll distinct kept).1 mem with new | ⟨old, -⟩
  · obtain ⟨p, there, e⟩ := Judging.saving_eq_ok.1 (saves.fits r new)
    exact ⟨p, there, fun _ => Point.enough_of_keep e judged, nofun⟩
  · obtain ⟨p, there, counted⟩ := counts r old judged
    exact ⟨p, there, fun _ => counted.unfinished (BatchStatus.ne_completed isOpen), nofun⟩

/-- The source of a derived item is among the results that settle a batch, and where it gives
numbers, these are what is seen of it. -/
lemma Settles.source (settles : s.Settles product b submissions rs) {n : String}
    (seen : ((s.context b submissions).addAll rs).values n ≠ []) :
    ∃ y ∈ rs, y.item = n ∧ ∃ q, product.point? n = some q ∧ (q.GivesNumbers →
      (((s.context b submissions).addAll rs).values n).length = y.samples.length) := by
  by_cases mem : n ∈ rs.map Result.item
  · obtain ⟨y, hy, rfl⟩ := List.mem_map.1 mem
    obtain ⟨q, there, e, judged⟩ := Judging.complete_eq_ok.1 (settles.fits y hy)
    refine ⟨y, hy, rfl, q, there, fun gives => ?_⟩
    have numbers := Point.length_sampleValues gives e
    have filled : y.sampleValues ≠ [] := by
      rw [← List.length_pos_iff, numbers, List.length_pos_iff]
      exact samples_of_status e judged
    rw [values_of_mem settles.distinct hy, Context.firstData_of_ne_nil filled, numbers]
  -- an item without a result was neither submitted nor stored
  · have absent : n ∉ (handedIn product b submissions).keys :=
      fun there => mem (settles.items.symm.subset there)
    rw [mem_keys_handedIn, not_or] at absent
    rw [values_of_notMem mem, Submission.valuesOf_of_notMem absent.1,
      Batch.valuesOf_of_notMem absent.2] at seen
    exact absurd rfl seen

/-- Submitting leaves verdicts only that rest on the number of samples asked for, or on those of the
source. -/
lemma counts_of_submitBatch {measuredBy : Option String} {completion : Completion}
    (sound : product.Sound) (loaded : s.batch id = .ok b)
    (found : s.product b.product = .ok product) (distinct : (b.results.map Result.item).Nodup)
    (h : s.submitBatch id items measuredBy = .ok (completion, s')) :
    completion.batch.Counts product := by
  obtain ⟨submissions, rs, -, -, settles, done, -⟩ := settles_of_submitBatch sound loaded found h
  obtain ⟨-, held, -⟩ := settles.completed distinct done
  obtain ⟨-, -, -, rfl⟩ := Batch.complete_eq_ok.1 done
  intro r mem judged
  obtain ⟨p, there, e, -⟩ := Judging.complete_eq_ok.1 (settles.fits r (held.subset mem))
  refine ⟨p, there, fun unfinished => absurd rfl unfinished, fun _ => ?_⟩
  obtain same | ⟨derived, seen, count⟩ := Point.count_of_evaluate e judged
  · exact .inl same
  obtain ⟨-, given, -, -⟩ :=
    (sound.points p (Product.point?_eq_some there).1).ofDerived derived
  obtain ⟨n, source⟩ := Option.isSome_iff_exists.1 given
  -- the numbers that were taken over are seen, so they are those of a result
  rw [source, Option.getD_some] at seen count
  obtain ⟨y, hy, rfl, q, known, numbers⟩ := settles.source seen
  refine .inr ⟨derived, samples_of_status e judged, y.item, y, q, source, ?_, known,
    fun gives => ?_⟩
  · exact Batch.result?_putAll_of_mem settles.distinct hy
  · rw [count, numbers gives]

end Session

/-- A result that was read back has as many samples as before. -/
lemma Result.Reread.length {r r' : Result} (back : r.Reread r') :
    r'.samples.length = r.samples.length := by
  simpa using congrArg List.length back.samples

namespace Batch

variable {product : Product} {b b' : Batch}

/-- What is stored of an item before reading is stored of it afterwards. -/
lemma Reread.result? (back : b.Reread b') {n : String} {y : Result} (found : b.result? n = some y) :
    ∃ y', b'.result? n = some y' ∧ y.Reread y' := by
  have both := result?_rel (fun _ _ => Result.Reread.item) back.results n
  rw [found] at both
  generalize b'.result? n = held at both
  cases both with
  | some own => exact ⟨_, rfl, own⟩

/-- A batch that is cancelled keeps its verdicts. -/
lemma counts_cancelled (isOpen : b.status.isOpen) (counts : b.Counts product) :
    { b with status := .cancelled }.Counts product := by
  intro r mem judged
  obtain ⟨p, there, counted⟩ := counts r mem judged
  exact ⟨p, there, fun _ => counted.unfinished (BatchStatus.ne_completed isOpen), nofun⟩

/-- A batch that was read back has as many samples behind its verdicts as before. -/
lemma counts_of_reread (back : b.Reread b') (counts : b.Counts product) : b'.Counts product := by
  intro r' mem judged
  obtain ⟨r, old, own⟩ := exists_mem_of_forall₂ back.results mem
  rw [own.status] at judged
  obtain ⟨p, there, counted⟩ := counts r old judged
  refine ⟨p, own.item ▸ there, fun unfinished => ?_, fun finished => ?_⟩
  · rw [own.length]
    exact counted.unfinished (back.status ▸ unfinished)
  · rw [own.length]
    refine (counted.finished (back.status ▸ finished)).imp_right fun copies => ?_
    obtain ⟨n, y, q, origin, found, known, numbers⟩ := copies.source
    obtain ⟨y', found', back'⟩ := back.result? found
    refine ⟨copies.derived, ?_, n, y', q, origin, found', known, fun gives => ?_⟩
    · rw [← List.length_pos_iff, own.length, List.length_pos_iff]
      exact copies.filled
    · rw [own.length, back'.length, numbers gives]

/-- In every batch that can be reached, a result with a status has enough samples while the batch is
not completed. In a completed batch it has the number of samples that its point asks for; only a
derived one may instead have samples of its source, and then just as many as the source's result if
each of these comes to a number. -/
theorem Reachable.counted (accepted : product.check = .ok product) (reachable : b.Reachable product)
    {r : Result} (stored : r ∈ b.results) (judged : r.status.isSome) :
    ∃ p, product.point? r.item = some p ∧ b.Counted product p r := by
  obtain ⟨-, sound⟩ := Product.sound_of_check accepted
  have counts : b.Counts product := by
    clear stored
    induction reachable with
    | created _ h => simp [Counts, Session.results_of_createBatch h]
    | saved before loaded found h ih =>
      exact Session.counts_of_saveProgress sound loaded found before.distinct ih h
    | submitted before loaded found h _ =>
      exact Session.counts_of_submitBatch sound loaded found before.distinct h
    | cancelled before loaded h ih =>
      obtain ⟨isOpen, rfl, -⟩ := Session.cancelBatch_steps loaded h
      exact counts_cancelled isOpen ih
    | reread _ back ih => exact counts_of_reread back ih
  exact counts r stored judged

end Batch

namespace Plate

open Session

/-- A completed plate whose copy asks for two numbers can be reached. -/
lemma reachable_completed : ∃ b : Batch, b.Reachable paired ∧ b.status = .completed ∧
    good "copy" 1.0 ∈ b.results := by
  obtain ⟨completion, s', submitted, held⟩ := submitBatch_paired
  obtain ⟨_, _, _, _, -, -, -, -, -, done, -⟩ := submitBatch_steps (batch_pairing opened) submitted
  obtain ⟨-, -, -, rfl⟩ := Batch.complete_eq_ok.1 done
  exact ⟨_, .submitted reachable_paired (batch_pairing opened) (by rfl) submitted, rfl,
    held.symm.subset (by simp)⟩

/-- The copy of a completed plate rests on the one sample of its thickness, though it asks for two
numbers. -/
theorem counted_paired : ∃ b : Batch, b.Reachable paired ∧ b.status = .completed ∧
    good "copy" 1.0 ∈ b.results ∧
    ∃ p, paired.point? "copy" = some p ∧ b.Counted paired p (good "copy" 1.0) := by
  obtain ⟨b, reachable, completed, mem⟩ := reachable_completed
  obtain ⟨p, there, counted⟩ := reachable.counted accepted_paired mem (by rfl)
  exact ⟨b, reachable, completed, mem, p, there, counted⟩

/-- A document that hands in two numbers for a thickness, which asks for one. -/
def twice : Json :=
  .record [("measurement_item_name_id", .text "thickness"),
    ("samples", .list [.record [("sample_index", .int 1), ("single_value", .float 1.0)],
      .record [("sample_index", .int 2), ("single_value", .float 1.0)]])]

/-- The result of a thickness with two numbers. -/
def goodTwice : Result :=
  ⟨"thickness", .perSample, some true, .empty, [],
    [⟨⟨⟨1, Nat.one_pos⟩, some 1.0, none, none⟩, some true, some 1.0, []⟩,
      ⟨⟨⟨2, Nat.two_pos⟩, some 1.0, none, none⟩, some true, some 1.0, []⟩], none, []⟩

/-- A thickness is kept with two numbers. -/
lemma saves_twice : (session opened).Saves product opened [goodTwice.toSubmission] [goodTwice] where
  items := by decide
  fits := by
    simp only [Judging.Fits, List.forall_mem_cons]
    exact ⟨by rfl, by simp⟩

/-- An open plate whose thickness was measured twice can be reached. -/
lemma reachable_twice : ∃ b : Batch, b.Reachable product ∧ b.status = .inProgress ∧
    goodTwice ∈ b.results := by
  obtain ⟨-, sound⟩ := Product.sound_of_check accepted
  have found : (session opened).product opened.product = .ok product := product_session opened
  have read : Submission.parseAll [twice] = .ok [goodTwice.toSubmission] := by rfl
  obtain ⟨rs, diagnostics, progress, s', perm, -, kept, -, saved⟩ := saveProgress_of_saves sound
    (batch_session opened) found read (by rfl) saves_twice (storable_session opened _)
  obtain rfl := List.perm_singleton.1 perm
  obtain ⟨-, rfl⟩ := Batch.save_eq_ok.1 kept
  exact ⟨_, .saved reachable_opened (batch_session opened) found saved, rfl, List.mem_cons_self⟩

/-- The number of samples behind a verdict may be another than the one asked for: an open batch may
have more of them, and a completed batch as many as a source has. -/
theorem counts_may_differ :
    (¬∀ (product : Product) (b : Batch) (r : Result) (p : Point), product.check = .ok product →
      b.Reachable product → b.status = .inProgress → r ∈ b.results → r.status.isSome →
        product.point? r.item = some p → r.samples.length = p.setup.sampleAmount.val) ∧
    ¬∀ (product : Product) (b : Batch) (r : Result) (p : Point), product.check = .ok product →
      b.Reachable product → b.status = .completed → r ∈ b.results → r.status.isSome →
        product.point? r.item = some p → r.samples.length = p.setup.sampleAmount.val := by
  constructor
  · intro same
    obtain ⟨b, reachable, status, mem⟩ := reachable_twice
    exact absurd (same _ _ _ _ accepted reachable status mem (by rfl) (by rfl)) (by decide)
  · intro same
    obtain ⟨b, reachable, status, mem⟩ := reachable_completed
    exact absurd (same _ _ _ _ accepted_paired reachable status mem (by rfl) (by rfl)) (by decide)

end Plate

end Inspection
