import Inspection.Proofs.Evaluation.Agreement

/-!
# What results keep

A result keeps the raw data that it comes from. `evaluate_eq_ok` tells how an evaluation comes to a
result, and `Evaluated` what a result of samples keeps: the inputs, the raw samples, and a number of
each sample that has any.

A submission that passes as a complete one passes as an incomplete one, with the same result
(`evaluate_incomplete`). The raw data of a result pass as well, also where they were derived, so a
result with samples is what its own raw data come to, in a context that shows the same
(`evaluate_toSubmission`).
-/

namespace Inspection

/-- The values of formulas over a sample are one for each, and none is missing. -/
lemma Sample.computeValues_eq_ok {item : Option String} {bindings : Formula.Bindings}
    {fs : List SampleFormula} {values : List SampleValue}
    (h : computeValues item bindings fs = .ok values) :
    values.length = fs.length ∧ ∀ v ∈ values, v.value.isSome := by
  induction fs generalizing bindings values with
  | nil =>
    cases h
    simp
  | cons f rest ih =>
    obtain ⟨outcome, -, e⟩ := bind_eq_ok.1 h
    cases outcome with
    | error failure => cases e
    | ok x =>
      obtain ⟨others, computed, e⟩ := bind_eq_ok.1 e
      cases pure_eq_ok.1 e
      obtain ⟨len, all⟩ := ih computed
      simpa [len] using all

/-- A sample as the point's formulas leave it: they all have values, and what is judged is one of
these or the raw number. -/
structure SampleResult.Computed (p : Point) (s : SampleResult) : Prop where
  length : s.values.length = p.sampleFormulas.length
  values : ∀ v ∈ s.values, v.value.isSome
  evaluated : s.evaluated.isSome → s.sample.single.isSome ∨ s.values ≠ []

namespace SampleResult

variable {p : Point}

/-- A processed sample keeps the raw one, and its formulas are computed. -/
lemma computed_of_process {s : Sample} {named : Formula.Bindings} {r : SampleResult}
    (h : s.process named p.sampleFormulas p.setup.shape (some p.name) = .ok r) :
    r.sample = s ∧ r.Computed p := by
  obtain ⟨values, computed, e⟩ := bind_eq_ok.1 h
  cases pure_eq_ok.1 e
  obtain ⟨len, all⟩ := Sample.computeValues_eq_ok computed
  exact ⟨rfl, len, all, by simp⟩

/-- Judging a sample changes neither the raw one nor what is computed of it. -/
lemma Computed.of_judgeSample {setting : PerSampleSetting} {s r : SampleResult}
    (computed : s.Computed p) (h : p.judgeSample setting s = .ok r) :
    r.sample = s.sample ∧ r.Computed p := by
  obtain ⟨status, -, e⟩ := bind_eq_ok.1 h
  cases pure_eq_ok.1 e
  refine ⟨rfl, computed.length, computed.values, ?_⟩
  dsimp only
  intro given
  rw [Point.judgedValue] at given
  split at given
  case isTrue => exact .inl given
  case isFalse =>
    refine .inr fun none => ?_
    simp [formulaValue, none] at given

/-- A sample has no number just if it has no raw one and no formula computes any. -/
lemma Computed.numericValue_eq_none {s : SampleResult} (computed : s.Computed p) :
    s.numericValue = none ↔ p.sampleFormulas = [] ∧ s.sample.single = none := by
  have noFormulas : s.values = [] ↔ p.sampleFormulas = [] := by
    rw [← List.length_eq_zero_iff, computed.length, List.length_eq_zero_iff]
  have noValue : s.values.reverse.findSome? SampleValue.value = none ↔ s.values = [] := by
    rw [List.findSome?_eq_none_iff]
    constructor
    · intro none
      rw [List.eq_nil_iff_forall_not_mem]
      intro v mem
      have some := computed.values v mem
      rw [none v (List.mem_reverse.2 mem)] at some
      cases some
    · rintro none v mem
      rw [none] at mem
      cases mem
  have noEvaluated : s.sample.single = none → s.values = [] → s.evaluated = none := by
    intro raw empty
    by_contra some
    rcases computed.evaluated (Option.isSome_iff_ne_none.2 some) with given | given
    · rw [raw] at given
      cases given
    · exact given empty
  rw [numericValue, ← noFormulas]
  simp only [Option.orElse_eq_orElse, Option.orElse_eq_or, Option.or_eq_none_iff, noValue]
  constructor
  · exact fun h => h.2
  · exact fun h => ⟨noEvaluated h.2 h.1, h⟩

end SampleResult

/-- What a result of some samples keeps: the inputs, and the raw samples, each with the formulas
over it computed. -/
structure Result.Evaluated (p : Point) (inputs : Table Float) (raw : List Sample) (r : Result) :
    Prop where
  item : r.item = p.name
  strategy : r.strategy = p.strategy
  inputs : r.inputs = inputs
  raw : r.samples.map SampleResult.sample = raw
  computed : ∀ s ∈ r.samples, s.Computed p

namespace Result

variable {p : Point} {inputs : Table Float} {raw : List Sample}

/-- Judging keeps what was processed, and comes to a status. -/
lemma Evaluated.of_judge {c : Context} {named : Table Float} {r r' : Result}
    (ev : r.Evaluated p inputs raw) (h : p.judge c named r = .ok r') :
    r'.Evaluated p inputs raw ∧ r'.status.isSome := by
  rw [Point.judge] at h
  split at h
  -- sample by sample
  · rw [Point.judgeSamples] at h
    split at h
    case h_1 => cases h
    case h_2 setting _ =>
      obtain ⟨samples, judged, e⟩ := bind_eq_ok.1 h
      cases pure_eq_ok.1 e
      refine ⟨⟨ev.item, ev.strategy, ev.inputs, ?_, ?_⟩, rfl⟩
      · rw [← ev.raw]
        refine map_of_mapM judged fun s s' e => ?_
        obtain ⟨status, -, e⟩ := bind_eq_ok.1 e
        cases pure_eq_ok.1 e
        rfl
      · intro s' mem
        obtain ⟨s, old, e⟩ := exists_mem_of_mapM judged mem
        exact ((ev.computed s old).of_judgeSample e).2
  -- from all samples
  · rw [Point.judgeJoint] at h
    split at h
    case h_1 => cases h
    case h_2 setting _ =>
      split at h
      case h_1 => cases h
      case h_2 =>
        obtain ⟨items, -, h⟩ := bind_eq_ok.1 h
        dsimp only at h
        split at h
        case isTrue => cases h
        case isFalse =>
          obtain ⟨values, -, h⟩ := bind_eq_ok.1 h
          split at h
          case h_1 => cases h
          case h_2 =>
            obtain ⟨status, -, e⟩ := bind_eq_ok.1 h
            cases pure_eq_ok.1 e
            exact ⟨⟨ev.item, ev.strategy, ev.inputs, ev.raw, ev.computed⟩, rfl⟩
  -- without a check
  · cases h
    exact ⟨⟨ev.item, ev.strategy, ev.inputs, ev.raw, ev.computed⟩, rfl⟩

/-- The result of samples keeps them, and has a status. -/
lemma Evaluated.of_evaluateSamples {s : Submission} {c : Context} {r : Result}
    (h : p.evaluateSamples s c raw = .ok r) :
    r.Evaluated p s.inputs raw ∧ r.status.isSome := by
  obtain ⟨named, -, h⟩ := bind_eq_ok.1 h
  obtain ⟨processed, computed, h⟩ := bind_eq_ok.1 h
  refine Evaluated.of_judge ⟨rfl, rfl, rfl, ?_, ?_⟩ h
  · rw [← List.map_id raw]
    exact map_of_mapM computed fun s r e => (SampleResult.computed_of_process e).1
  · intro r mem
    obtain ⟨s, -, e⟩ := exists_mem_of_mapM computed mem
    exact (SampleResult.computed_of_process e).2

/-- The result shows other items no number just if its raw data have none and no formula computes
any. -/
lemma Evaluated.sampleValues_eq_nil {r : Result} (ev : r.Evaluated p inputs raw) :
    r.sampleValues = [] ↔ ∀ s ∈ raw, p.sampleFormulas = [] ∧ s.single = none := by
  rw [sampleValues, List.filterMap_eq_nil_iff, ← ev.raw]
  constructor
  · intro none s mem
    obtain ⟨x, hx, rfl⟩ := List.mem_map.1 mem
    exact (ev.computed x hx).numericValue_eq_none.1 (none x hx)
  · intro none x hx
    exact (ev.computed x hx).numericValue_eq_none.2 (none x.sample (List.mem_map_of_mem hx))

end Result

namespace Point

variable {p : Point} {s : Submission} {c : Context} {complete : Bool} {r : Result}

/-- How an evaluation comes to a result: from the samples handed in, or from those of the source, or
without any while an instrument is awaited. -/
lemma evaluate_eq_ok : p.evaluate s c complete = .ok r ↔
    (s.validate p complete).issues = [] ∧
      ((s.samples ≠ [] ∧ p.evaluateSamples s c s.samples = .ok r) ∨
      (s.samples = [] ∧ p.setup.source = .instrument ∧
        r = ⟨p.name, p.strategy, none, s.inputs, [], [], none, []⟩) ∨
      (s.samples = [] ∧ p.setup.source = .derived ∧
        ∃ raw, p.derivedSamples c = .ok raw ∧ p.evaluateSamples s c raw = .ok r)) := by
  rw [evaluate]
  by_cases valid : (s.validate p complete).issues = []
  · by_cases given : s.samples = []
    · cases source : p.setup.source with
      | manual => simp [valid, given, refuse, raise]
      | instrument => simp [valid, given, eq_comm]
      | derived => simp [valid, given, bind_eq_ok]
    · simp [valid, given]
  · simp [valid, refuse, raise]

/-- Samples that are derived number those of the source, of which there are some. -/
lemma derivedSamples_eq_values {raw : List Sample} (h : p.derivedSamples c = .ok raw) :
    c.values (p.setup.derivedFrom.getD "") ≠ [] ∧
      raw = numbered 0 (c.values (p.setup.derivedFrom.getD "")) := by
  rw [derivedSamples] at h
  split at h
  case isTrue => cases h
  case isFalse some =>
    cases h
    exact ⟨by simpa using some, rfl⟩

/-- Samples that are derived are there, and each has a raw number. -/
lemma derivedSamples_eq_ok {raw : List Sample} (h : p.derivedSamples c = .ok raw) :
    ∃ values, values ≠ [] ∧ raw = numbered 0 values :=
  ⟨_, derivedSamples_eq_values h⟩

/-- There are as many numbered samples as there are numbers. -/
@[simp] lemma length_numbered {first : Nat} {values : List Float} :
    (numbered first values).length = values.length := by
  induction values generalizing first with
  | nil => rfl
  | cons x rest ih => rw [numbered, List.length_cons, ih, List.length_cons]

/-- The samples of a submission without issues have none. -/
lemma issues_of_sampleIssues {setup : Setup} {before : List Count} {samples : List Sample}
    (h : Submission.sampleIssues setup before samples = []) :
    ∀ sample ∈ samples, sample.issues setup = [] := by
  induction samples generalizing before with
  | nil => simp
  | cons first rest ih =>
    rw [Submission.sampleIssues, List.append_eq_nil_iff, List.append_eq_nil_iff,
      List.map_eq_nil_iff] at h
    obtain ⟨⟨-, own⟩, later⟩ := h
    intro sample mem
    rcases List.mem_cons.1 mem with rfl | mem
    · exact own
    · exact ih later sample mem

/-- A derived sample has a single number. -/
lemma single_of_numbered {first : Nat} {values : List Float} {sample : Sample}
    (mem : sample ∈ numbered first values) : sample.single.isSome := by
  induction values generalizing first with
  | nil => cases mem
  | cons x rest ih =>
    rcases List.mem_cons.1 mem with rfl | mem
    · rfl
    · exact ih mem

/-- What the result of a submission keeps, and when it has a status. -/
lemma evaluated_of_evaluate (h : p.evaluate s c complete = .ok r) :
    ∃ raw, r.Evaluated p s.inputs raw ∧ (r.status.isSome ↔ raw ≠ []) ∧
      (raw = s.samples ∨ s.samples = [] ∧ p.setup.source = .derived ∧
        ∃ values, values ≠ [] ∧ raw = numbered 0 values) := by
  obtain ⟨-, ⟨given, e⟩ | ⟨none, -, rfl⟩ | ⟨none, derived, raw, found, e⟩⟩ := evaluate_eq_ok.1 h
  · obtain ⟨ev, status⟩ := Result.Evaluated.of_evaluateSamples e
    exact ⟨s.samples, ev, by simp [status, given], .inl rfl⟩
  · exact ⟨[], ⟨rfl, rfl, rfl, rfl, by simp⟩, by simp, .inl none.symm⟩
  · obtain ⟨ev, status⟩ := Result.Evaluated.of_evaluateSamples e
    obtain ⟨values, some, rfl⟩ := derivedSamples_eq_ok found
    refine ⟨_, ev, ?_, .inr ⟨none, derived, values, some, rfl⟩⟩
    cases values with
    | nil => exact absurd rfl some
    | cons value rest => simp [status, numbered]

end Point

/-! ## Evaluating raw data again -/

namespace Submission

variable {s : Submission} {p : Point} {complete : Bool}

/-- A submission without issues is for the point. -/
lemma item_of_issues (valid : (s.validate p complete).issues = []) : s.item = p.name := by
  simp only [validate, List.append_eq_nil_iff] at valid
  by_contra other
  rw [if_pos other] at valid
  cases valid.1.1

/-- A submission without issues has none where fewer samples would do. -/
lemma issues_incomplete (valid : (s.validate p complete).issues = []) :
    (s.validate p false).issues = [] := by
  simp only [validate, List.append_eq_nil_iff] at valid ⊢
  exact ⟨valid.1, by simp⟩

/-- Numbered samples have no issues where single numbers are taken down. -/
lemma sampleIssues_numbered {setup : Setup} (shape : setup.shape = .single)
    (nature : setup.nature = .quantitative) {before : List Count} {first : Nat}
    (below : ∀ i ∈ before, i.val ≤ first) (values : List Float) :
    sampleIssues setup before (Point.numbered first values) = [] := by
  induction values generalizing before first with
  | nil => rfl
  | cons value rest ih =>
    have new : (⟨first + 1, Nat.succ_pos first⟩ : Count) ∉ before := by
      intro mem
      exact absurd (below _ mem) (by simp)
    have below' : ∀ i ∈ (⟨first + 1, Nat.succ_pos first⟩ : Count) :: before, i.val ≤ first + 1 := by
      intro i mem
      rcases List.mem_cons.1 mem with rfl | mem
      · exact Nat.le_refl _
      · exact Nat.le_succ_of_le (below i mem)
    rw [Point.numbered, sampleIssues, if_neg new, ih below', Sample.issues, shape, nature]
    rfl

end Submission

namespace Point

variable {p : Point} {s : Submission} {c : Context} {complete : Bool} {r : Result}

/-- The result of samples depends on no more of a submission than its inputs. -/
lemma evaluateSamples_inputs {s' : Submission} (inputs : s.inputs = s'.inputs)
    (raw : List Sample) : p.evaluateSamples s c raw = p.evaluateSamples s' c raw := by
  rw [evaluateSamples, evaluateSamples, resolveVariables, resolveVariables, inputs]

/-- What a complete submission comes to, it comes to where fewer samples would do. -/
lemma evaluate_incomplete (h : p.evaluate s c complete = .ok r) : p.evaluate s c false = .ok r := by
  obtain ⟨valid, e⟩ := evaluate_eq_ok.1 h
  exact evaluate_eq_ok.2 ⟨Submission.issues_incomplete valid, e⟩

/-- A result with samples is what its own raw data come to. -/
theorem evaluate_toSubmission (sound : p.Sound) (h : p.evaluate s c complete = .ok r)
    (some : r.samples ≠ []) : p.evaluate r.toSubmission c false = .ok r := by
  have again : ∀ raw, p.evaluateSamples s c raw = .ok r →
      (Submission.validate ⟨p.name, s.inputs, raw⟩ p false).issues = [] →
      p.evaluate r.toSubmission c false = .ok r := by
    intro raw e valid
    obtain ⟨ev, -⟩ := Result.Evaluated.of_evaluateSamples e
    have own : r.toSubmission = ⟨p.name, s.inputs, raw⟩ := by
      rw [Result.toSubmission, ev.item, ev.inputs, ev.raw]
    rw [own]
    refine evaluate_eq_ok.2 ⟨valid, .inl ⟨?_, ?_⟩⟩
    · intro none
      rw [← ev.raw, List.map_eq_nil_iff] at none
      exact some none
    · rw [← e]
      exact evaluateSamples_inputs rfl raw
  obtain ⟨valid, ⟨given, e⟩ | ⟨-, -, rfl⟩ | ⟨-, derived, raw, found, e⟩⟩ := evaluate_eq_ok.1 h
  · refine again s.samples e ?_
    rw [← Submission.item_of_issues valid]
    exact Submission.issues_incomplete valid
  · exact absurd rfl some
  -- what was derived is numbered anew, and a derived point takes single numbers
  · obtain ⟨values, -, rfl⟩ := derivedSamples_eq_ok found
    obtain ⟨-, -, shape, nature⟩ := sound.ofDerived derived
    refine again _ e ?_
    rw [Submission.validate, Submission.sampleIssues_numbered shape nature (by simp)]
    simp

end Point

end Inspection
