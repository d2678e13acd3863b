import Inspection.Proofs.Session.Merging
import Inspection.Proofs.Session.SavingFirst

/-!
# Raw data that is kept

Whatever comes of an item that is saved, the result that is kept of it hands in again what was
handed in, unless its samples were derived (`Point.toSubmission_of_keep`). A store returns all of
this but the raw numbers that are not finite, which a directory drops
(`Store.Returns.toSubmission`). So a saving loses no raw data in its answer, nor in memory, and in a
directory just the numbers that are not finite (`saveProgress_keeps_raw`): an infinite one is lost
(`Plate.raw_number_may_be_lost`).
-/

namespace Inspection

open Reading Reader Json

/-! ## What is restored -/

/-- A sample as it is read back: without its number if this is not finite. -/
def Sample.restored (s : Sample) : Sample :=
  { s with single := s.single.filter Float.isFinite }

/-- A submission as it is read back. -/
def Submission.restored (x : Submission) : Submission :=
  { x with samples := x.samples.map Sample.restored }

/-- A submission as a store returns it. -/
def Store.restored : Store → Submission → Submission
  | memory _, x => x
  | directory _, x => x.restored

/-- A sample is restored as it was just if it has no number that is not finite. -/
lemma Sample.restored_eq_self {s : Sample} : s.restored = s ↔ ∀ y ∈ s.single, y.isFinite := by
  obtain ⟨index, single, pair, judgement⟩ := s
  cases single with
  | none => exact iff_of_true rfl nofun
  | some y =>
    by_cases finite : y.isFinite
    · simp [restored, Option.filter, finite]
    · simp [restored, Option.filter, finite]

/-- A submission is restored as it was just if no sample has a number that is not finite. -/
lemma Submission.restored_eq_self {x : Submission} :
    x.restored = x ↔ ∀ s ∈ x.samples, ∀ y ∈ s.single, y.isFinite := by
  obtain ⟨item, inputs, samples⟩ := x
  have each : samples.map Sample.restored = samples ↔ ∀ s ∈ samples, s.restored = s := by
    simpa using List.map_eq_map_iff (f := Sample.restored) (g := id)
  simp only [restored, Submission.mk.injEq, true_and, each, Sample.restored_eq_self]

/-- A store returns a submission as it was just if it is not a directory, or all raw numbers are
finite. -/
lemma Store.restored_eq_self {store : Store} {x : Submission} : store.restored x = x ↔
    (store.isDirectory → ∀ s ∈ x.samples, ∀ y ∈ s.single, y.isFinite) := by
  cases store with
  | memory => exact iff_of_true rfl nofun
  | directory =>
    rw [Store.restored, Submission.restored_eq_self]
    exact ⟨fun finite _ => finite, fun finite => finite rfl⟩

namespace Json

variable {α : Type} {f : α → Json} {r : Reader α} {x y : Option α}

/-- Of a stored part that may be missing the part is read, where it is of each part that is there
and never null. -/
lemma eq_of_gives_option (there : ∀ a, (f a).readBack ≠ .ok null)
    (own : ∀ a b, (f a).Gives r b → b = a) (h : (ofOption f x).Gives (nullable r) y) : y = x := by
  obtain ⟨j, back, read⟩ := h
  cases x with
  | none =>
    cases back
    exact (Reading.found.inj read).symm
  | some a =>
    rcases nullable_eq_found read with ⟨rfl, -⟩ | ⟨b, rfl, inner⟩
    · exact absurd back (there a)
    · exact congrArg some (own a b ⟨j, back, inner⟩)

/-- Of a stored number that may be missing the number is read, if it is finite. -/
lemma number_of_gives? {x y : Option Float} (h : (ofFloat? x).Gives (nullable number) y) :
    y = x.filter Float.isFinite := by
  obtain ⟨j, back, read⟩ := h
  cases x with
  | none =>
    cases back
    cases read
    rfl
  | some x =>
    cases back
    cases finite : x.isFinite with
    | true =>
      rw [floatBack_of_finite finite] at read
      cases read
      simp [Option.filter, finite]
    | false =>
      -- it came back as null, which is read as no number at all
      rw [floatBack_of_not_finite finite] at read
      cases read
      simp [Option.filter, finite]

end Json

/-- Of a stored pair of numbers the pair is read. -/
lemma Pair.eq_of_gives {p p' : Pair} (h : p.json.Gives Pair.read p') : p' = p := by
  obtain ⟨j, back, read⟩ := h
  obtain ⟨ms, members, rfl⟩ := record_back back
  rw [Pair.read, model] at read
  simp only [seq_eq_found, map_eq_found] at read
  obtain ⟨_, after, ⟨before, before_read, rfl⟩, after_read, rfl⟩ := read
  obtain ⟨_, before_back, before_read⟩ := required_back members (by rfl) before_read
  obtain ⟨_, after_back, after_read⟩ := required_back members (by rfl) after_read
  cases before_back
  cases after_back
  obtain ⟨-, rfl⟩ := number_floatBack.1 before_read
  obtain ⟨-, rfl⟩ := number_floatBack.1 after_read
  rfl

/-- Of a stored sample its raw data is read, as far as it is restored. -/
lemma SampleResult.sample_of_gives {s s' : SampleResult} (h : s.json.Gives SampleResult.read s') :
    s'.sample = s.sample.restored := by
  obtain ⟨j, back, read⟩ := h
  obtain ⟨ms, members, rfl⟩ := record_back back
  rw [SampleResult.read, model] at read
  simp only [Sample.readMembers, absentable, seq_eq_found, map_eq_found] at read
  obtain ⟨_, _, ⟨_, _, ⟨_, _, ⟨_, sample, rfl⟩, -, rfl⟩, -, rfl⟩, -, rfl⟩ := read
  obtain ⟨_, judgement, ⟨_, pair, ⟨_, single, ⟨index, index_read, rfl⟩, single_read, rfl⟩,
    pair_read, rfl⟩, judgement_read, rfl⟩ := sample
  obtain ⟨_, index_back, index_read⟩ := required_back members (by rfl) index_read
  obtain ⟨_, judgement_back, judgement_read⟩ := optional_back members (by rfl) judgement_read
  have single := number_of_gives? ((optional_iff "single_value" none members rfl).1 single_read)
  have pair := eq_of_gives_option Pair.json_readBack_ne_null (fun _ _ => Pair.eq_of_gives)
    ((optional_iff "before_after_value" none members rfl).1 pair_read)
  rw [Sample.restored, count_back index_back index_read, single, pair,
    boolean_back judgement_back judgement_read]

/-- What is read of a stored result hands in what the result hands in, as far as it is restored. -/
lemma Result.toSubmission_of_gives {r r' : Result} (h : r.json.Gives Result.read r') :
    r'.toSubmission = r.toSubmission.restored := by
  obtain ⟨j, back, read⟩ := h
  obtain ⟨ms, members, rfl⟩ := record_back back
  rw [Result.read, model] at read
  simp only [absentable, seq_eq_found, map_eq_found] at read
  obtain ⟨_, _, ⟨_, _, ⟨_, samples, ⟨_, _, ⟨_, inputs, ⟨_, _, ⟨_, _, ⟨item, item_read, rfl⟩, -,
    rfl⟩, -, rfl⟩, inputs_read, rfl⟩, -, rfl⟩, samples_read, rfl⟩, -, rfl⟩, -, rfl⟩ := read
  obtain ⟨_, item_back, item_read⟩ := required_back members (by rfl) item_read
  obtain ⟨_, samples_back, samples_read⟩ := optional_back members (by rfl) samples_read
  obtain ⟨-, same⟩ :=
    gives_table_iff.1 ((optional_iff "variable_values" .empty members rfl).1 inputs_read)
  have raw : samples.map SampleResult.sample =
      r.samples.map fun s => s.sample.restored :=
    map_of_forall₂ (list_back samples_back samples_read) fun _ _ => SampleResult.sample_of_gives
  rw [Result.toSubmission, Submission.restored, Result.toSubmission, text_back item_back item_read,
    ← same, raw, List.map_map]
  rfl

/-- What a store returns of a result hands in what the result hands in, as far as the store returns
this. -/
lemma Store.Returns.toSubmission {store : Store} {r r' : Result} (h : store.Returns r r') :
    r'.toSubmission = store.restored r.toSubmission := by
  cases store with
  | memory => exact congrArg Result.toSubmission h
  | directory => exact Result.toSubmission_of_gives h

namespace Session

variable {s s' : Session} {product : Product} {b b' : Batch} {id : String} {items : List Json}
  {progress : Progress}

/-- Of a result that a stored batch holds the batch that is loaded holds what the store returns. -/
lemma result?_of_save (stored : s.save b = .ok s') (loaded : s'.batch b.id = .ok b') {n : String}
    {r : Result} (held : b.result? n = some r) :
    ∃ r', b'.result? n = some r' ∧ s.store.Returns r r' := by
  obtain ⟨-, both, -⟩ := returns_of_save stored loaded
  have same := Batch.result?_rel (fun _ _ h => h.reread.item) both n
  rw [held] at same
  generalize back : b'.result? n = held' at same
  cases same with
  | some returned => exact ⟨_, rfl, returned⟩

/-- **A saving keeps raw data.** Where a saving returns, its answer holds a result of each submitted
item that hands in again all that was submitted, unless it is a derived item that was submitted
without samples. Wherever the batch is loaded then, it holds a result of the item that hands in the
same, as the store returns it: all of it in memory, and in a directory just if the raw numbers of
its samples are finite. The whole batch is loaded as it was answered from memory, and from a
directory just if it is durable. -/
theorem saveProgress_keeps_raw (accepted : product.check = .ok product)
    (loaded : s.batch id = .ok b) (found : s.product b.product = .ok product)
    (h : s.saveProgress id items = .ok (progress, s')) :
    ∃ submissions, Submission.parseAll items = .ok submissions ∧
      (∀ x ∈ submissions, ∃ point, product.point? x.item = some point ∧
        ((point.setup.source = .derived → x.samples ≠ []) →
          (∃ r, progress.batch.result? x.item = some r ∧ r.toSubmission = x) ∧
          ∀ b', s'.batch progress.batch.id = .ok b' →
            ∃ r', b'.result? x.item = some r' ∧ r'.toSubmission = s.store.restored x ∧
              (r'.toSubmission = x ↔
                (s.store.isDirectory → ∀ y ∈ x.samples, ∀ z ∈ y.single, z.isFinite)))) ∧
      (s'.batch progress.batch.id = .ok progress.batch ↔
        (s.store.isDirectory → progress.batch.Durable)) := by
  obtain ⟨-, sound⟩ := Product.sound_of_check accepted
  obtain ⟨submissions, rs, diagnostics, read, -, saves, -, done, stored⟩ :=
    saves_of_saveProgress sound loaded found h
  have distinct := (Submission.parseAll_eq_ok.1 read).2
  refine ⟨submissions, read, fun x mem => ?_, ?_⟩
  · obtain ⟨r, hr, own, point, c, there, kept⟩ := saves.of_mem distinct mem
    refine ⟨point, there, fun given => ?_⟩
    have raw : r.toSubmission = x :=
      Point.toSubmission_of_keep (Product.point?_eq_some there).2.symm given kept
    have held : progress.batch.result? x.item = some r := by
      obtain ⟨-, rfl⟩ := Batch.save_eq_ok.1 done
      exact own ▸ Batch.result?_putAll_of_mem (saves.items.symm.nodup distinct) hr
    refine ⟨⟨r, held, raw⟩, fun b' loaded' => ?_⟩
    obtain ⟨r', held', returned⟩ := result?_of_save stored loaded' held
    have back : r'.toSubmission = s.store.restored x := raw ▸ returned.toSubmission
    exact ⟨r', held', back, by rw [back, Store.restored_eq_self]⟩
  · rw [batch_of_save stored]
    cases s.store <;> simp [Store.isDirectory]

end Session

namespace Plate

open Session

/-- The thickness that is saved first is loaded as it was submitted. -/
theorem saveProgress_keeps_thickness : ∃ progress b' r,
    (session opened).saveProgress opened.id firstItems = .ok (progress, session saved) ∧
    (session saved).batch progress.batch.id = .ok b' ∧ b'.result? "thickness" = some r ∧
    r.toSubmission = submission "thickness" [1.0] := by
  obtain ⟨progress, done⟩ := saved_first.2
  obtain ⟨submissions, read, raw, whole⟩ :=
    saveProgress_keeps_raw accepted (batch_session opened) (product_session opened) done
  obtain rfl : firstRound.submitted = submissions := Except.ok.inj read
  have loaded := whole.2 nofun
  obtain ⟨point, -, keeps⟩ := raw (submission "thickness" [1.0]) (by simp [firstRound])
  obtain ⟨r, held, -, same⟩ := (keeps (by simp [submission])).2 _ loaded
  exact ⟨progress, _, r, done, loaded, held, same.2 nofun⟩

/-- Raw data may be lost: of a batch in a directory to which an infinite thickness was saved the
thickness that is loaded hands in no number. -/
theorem raw_number_may_be_lost : ¬∀ (p : Product) (s s' : Session) (id : String) (b b' : Batch)
    (items : List Json) (progress : Progress) (submissions : List Submission) (x : Submission),
      p.check = .ok p → b.Reachable p → b.status.isOpen → s.batch id = .ok b →
      s.product b.product = .ok p → s.saveProgress id items = .ok (progress, s') →
      Submission.parseAll items = .ok submissions → x ∈ submissions →
      (∀ point, p.point? x.item = some point → point.setup.source = .derived → x.samples ≠ []) →
      s'.batch id = .ok b' → ∃ r, b'.result? x.item = some r ∧ r.toSubmission = x := by
  intro keeps
  obtain ⟨s, stored⟩ := save_shelf 2
  have loaded : s.batch opened.id = .ok opened :=
    (batch_of_save stored).2 fun _ _ => by decide
  have found : s.product opened.product = .ok product := by
    rw [Session.product, registry_of_save stored]
    rfl
  obtain ⟨t, stored'⟩ := storable_again stored immense rfl
  obtain ⟨progress, held, done⟩ :=
    saveProgress_immense loaded found (fallback_of_save stored) stored'
  have back : t.batch opened.id = .ok immenseBack :=
    (batch_of_save_directory (place_shelf stored) stored').2 ⟨_, rfl, rfl⟩
  obtain ⟨r, whole, same⟩ := keeps product s t opened.id opened immenseBack _ progress
    [submission "thickness" [Number.infinity]] (submission "thickness" [Number.infinity]) accepted
    reachable_opened rfl loaded found done rfl List.mem_cons_self
    (fun _ _ _ => by simp [submission]) back
  cases whole
  exact absurd same (by decide)

end Plate

end Inspection
