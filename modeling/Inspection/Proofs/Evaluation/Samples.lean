import Inspection.Proofs.Evaluation.Dependencies
import Inspection.Proofs.Rule.Limits

/-!
# Evaluation sample by sample

Where a point is judged sample by sample, no sample has to do with another. A point of an accepted
product says what is judged of a sample, and every sample that is processed has it
(`Point.isSome_judgedValue`). A rule with finite limits has an answer for it, so that processing all
samples before the first is judged comes to the same as settling one after the other
(`Point.evaluate_eq_mapM`). Hence the samples come out as they do by themselves, and the first one
that fails ends the evaluation as it ends its own (`evaluate_sample_by_sample`).
-/

namespace Inspection

open Formula

/-- Some rule or none, with finite limits, has an answer for every number. -/
lemma Rule.exists_accepts {rule : Option Rule} (finite : ∀ r, rule = some r → r.Finite)
    (x : Option Float) : ∃ answer, accepts rule x = .ok answer := by
  cases rule with
  | none => exact ⟨false, rfl⟩
  | some r =>
    cases x with
    | none => exact ⟨false, rfl⟩
    | some x =>
      rw [accepts]
      by_cases number : Number.isFinite x
      · obtain ⟨answer, judged, -⟩ := admits_exact (finite r rfl) number
        rw [if_pos number]
        exact ⟨answer, judged⟩
      · rw [if_neg number]
        exact ⟨false, rfl⟩

/-- The values of formulas over a sample bear the names of the formulas. -/
lemma Sample.names_of_computeValues {item : Option String} {bindings : Bindings}
    {fs : List SampleFormula} {values : List SampleValue}
    (h : computeValues item bindings fs = .ok values) :
    values.map SampleValue.name = fs.map SampleFormula.name := by
  induction fs generalizing bindings values with
  | nil =>
    cases h
    rfl
  | cons f rest ih =>
    obtain ⟨outcome, -, e⟩ := bind_eq_ok.1 h
    cases outcome with
    | error failure => cases e
    | ok x =>
      obtain ⟨others, computed, e⟩ := bind_eq_ok.1 e
      cases pure_eq_ok.1 e
      rw [List.map_cons, List.map_cons, ih computed]

/-- The submission with one of its samples only. -/
def Submission.only (s : Submission) (x : Sample) : Submission :=
  { s with samples := [x] }

/-- A sample of a submission without issues has none by itself. -/
lemma Submission.issues_only {s : Submission} {p : Point} {complete : Bool} {x : Sample}
    (valid : (s.validate p complete).issues = []) (mem : x ∈ s.samples) :
    ((s.only x).validate p false).issues = [] := by
  simp only [validate, List.append_eq_nil_iff] at valid ⊢
  have own : x.issues p.setup = [] := Point.issues_of_sampleIssues valid.1.2 x mem
  exact ⟨⟨valid.1.1, by simp [only, sampleIssues, own]⟩, by simp⟩

namespace Point

variable {p : Point} {s : Submission} {c : Context} {complete : Bool} {raw : List Sample}
  {named : Table Float} {setting : PerSampleSetting}

/-! ## What is judged -/

/-- A point without issues that is judged at all is measured. -/
lemma measured_of_issues (fine : p.issues = []) (checked : p.strategy ≠ .skipCheck) :
    p.setup.nature = .quantitative := by
  simp only [issues, List.append_eq_nil_iff] at fine
  obtain ⟨⟨⟨⟨rule, -⟩, -⟩, -⟩, -⟩ := fine
  cases nature : p.setup.nature with
  | quantitative => rfl
  | qualitative => simp [ruleIssues, nature, checked] at rule

/-- A point without issues that is judged sample by sample says what of: the single number that it
takes down of a sample, or the value of a formula that it has. -/
lemma perSample_of_issues (fine : p.issues = []) (strategy : p.strategy = .perSample) :
    ∃ setting, p.setting.perSample = some setting ∧
      (setting.rawData = true → p.setup.shape = .single) ∧
      (setting.rawData = false →
        ∃ f ∈ p.sampleFormulas, f.name = setting.formulaName.getD "") := by
  simp only [issues, List.append_eq_nil_iff] at fine
  obtain ⟨-, settled⟩ := fine
  rw [settingIssues, strategy] at settled
  dsimp only at settled
  split at settled
  case h_1 => cases settled
  case h_2 setting given =>
    refine ⟨setting, given, fun raw => ?_, fun computed => ?_⟩
    · by_contra other
      simp [raw, other] at settled
    · rw [if_neg (by simp [computed])] at settled
      split at settled
      case h_1 => cases settled
      case h_2 name named =>
        obtain ⟨stated, -⟩ := Option.filter_eq_some_iff.1 named
        have declared : (p.sampleFormula? name).isSome := by
          by_contra none
          rw [Option.not_isSome_iff_eq_none] at none
          simp [none] at settled
        obtain ⟨f, found⟩ := Option.isSome_iff_exists.1 declared
        rw [sampleFormula?] at found
        refine ⟨f, List.mem_of_find?_eq_some found, ?_⟩
        rw [stated, Option.getD_some]
        simpa using List.find?_some found

/-- Every sample that a point without issues processes has what is judged of it. -/
lemma isSome_judgedValue (fine : p.issues = []) (strategy : p.strategy = .perSample)
    (given : p.setting.perSample = some setting) (takes : p.Takes s c complete raw)
    {sample : Sample} (mem : sample ∈ raw) {r : SampleResult}
    (processed : sample.process (fun n => (named.find? n).map .float) p.sampleFormulas p.setup.shape
      (some p.name) = .ok r) :
    (judgedValue setting r).isSome := by
  have measured := measured_of_issues fine (by simp [strategy])
  obtain ⟨setting', given', ofRaw, ofFormula⟩ := perSample_of_issues fine strategy
  obtain rfl : setting = setting' := Option.some.inj (given.symm.trans given')
  obtain ⟨kept, computed⟩ := SampleResult.computed_of_process processed
  rw [judgedValue]
  cases kind : setting.rawData with
  | true =>
    have shape := ofRaw kind
    have number : ((sample.rawNumbers p.setup.shape).lookup "single_value").isSome :=
      takes.isSome_rawNumbers (sound_of_issues fine) measured mem
        (by simp [shape, SampleShape.rawNames])
    rw [if_pos rfl, kept]
    cases single : sample.single with
    | some x => rfl
    | none => simp [shape, Sample.rawNumbers, single] at number
  | false =>
    obtain ⟨f, declared, name⟩ := ofFormula kind
    obtain ⟨values, evaluated, e⟩ := bind_eq_ok.1 processed
    cases pure_eq_ok.1 e
    have bears : f.name ∈ values.map SampleValue.name := by
      rw [Sample.names_of_computeValues evaluated]
      exact List.mem_map_of_mem declared
    obtain ⟨w, hw, same⟩ := List.mem_map.1 bears
    have found : (values.find? fun v => v.name = f.name).isSome :=
      List.find?_isSome.2 ⟨w, hw, by simpa using same⟩
    obtain ⟨v, found⟩ := Option.isSome_iff_exists.1 found
    rw [if_neg (by simp), SampleResult.formulaValue, ← name, found, Option.bind_some]
    exact computed.values v (List.mem_of_find?_eq_some found)

/-! ## One after the other -/

/-- A sample that is processed and judged by itself. -/
def settle (p : Point) (setting : PerSampleSetting) (named : Table Float) (sample : Sample) :
    Outcome SampleResult := do
  let processed ← sample.process (fun n => (named.find? n).map .float) p.sampleFormulas
    p.setup.shape (some p.name)
  p.judgeSample setting processed

/-- The result of samples that are settled; it is good if all of them are. -/
def settled (p : Point) (s : Submission) (named : Table Float) (samples : List SampleResult) :
    Result :=
  ⟨p.name, p.strategy, some (samples.all fun x => x.status = some true), s.inputs,
    p.resolvedVariables named, samples, none, []⟩

/-- A rule with finite limits judges every sample. -/
lemma exists_judgeSample (finite : ∀ rule, p.rule = some rule → rule.Finite) (r : SampleResult) :
    ∃ r', p.judgeSample setting r = .ok r' := by
  obtain ⟨answer, judged⟩ := Rule.exists_accepts finite (judgedValue setting r)
  exact ⟨_, bind_eq_ok.2 ⟨answer, Outcome.of_eq_ok.2 judged, rfl⟩⟩

/-- Where the rule has finite limits, samples are settled one after the other. -/
lemma evaluate_eq_mapM (strategy : p.strategy = .perSample)
    (given : p.setting.perSample = some setting)
    (finite : ∀ rule, p.rule = some rule → rule.Finite) (takes : p.Takes s c complete raw)
    (resolved : p.resolveVariables s c = .ok named) :
    p.evaluate s c complete = (raw.mapM (p.settle setting named)).map (p.settled s named) := by
  have rounds : raw.mapM (p.settle setting named) =
      p.processSamples named raw >>= fun processed => processed.mapM (p.judgeSample setting) :=
    (mapM_bind_mapM (exists_judgeSample finite) raw).symm
  rw [takes.evaluate, evaluateSamples, resolved, ok_bind, rounds, ← processSamples]
  cases p.processSamples named raw with
  | error fault => rfl
  | ok processed =>
    rw [ok_bind, ok_bind, judge, strategy]
    dsimp only
    rw [judgeSamples, given]
    dsimp only
    cases processed.mapM (p.judgeSample setting) with
    | error fault => rfl
    | ok samples => simp [settled, strategy, Except.map, pure, Except.pure]

section

variable (strategy : p.strategy = .perSample) (given : p.setting.perSample = some setting)
  (finite : ∀ rule, p.rule = some rule → rule.Finite) (valid : (s.validate p false).issues = [])
  (resolved : p.resolveVariables s c = .ok named)

include strategy given finite valid resolved

/-- A sample by itself is settled as it is among others. -/
lemma evaluate_only {x : Sample} (mem : x ∈ s.samples) :
    p.evaluate (s.only x) c false =
      (p.settle setting named x).map fun r => p.settled s named [r] := by
  have takes : p.Takes (s.only x) c false [x] :=
    .submitted (Submission.issues_only valid mem) (List.cons_ne_nil x [])
  have resolved' : p.resolveVariables (s.only x) c = .ok named := resolved
  rw [evaluate_eq_mapM strategy given finite takes resolved', List.mapM_cons, List.mapM_nil]
  cases p.settle setting named x <;> rfl

/-- A sample is evaluated by itself just if it can be settled. -/
lemma exists_evaluate_only {x : Sample} (mem : x ∈ s.samples) :
    (∃ r, p.evaluate (s.only x) c false = .ok r) ↔ ∃ r, p.settle setting named x = .ok r := by
  rw [evaluate_only strategy given finite valid resolved mem]
  cases p.settle setting named x <;> simp [Except.map]

/-- Samples are evaluated just if each is evaluated by itself. -/
lemma evaluate_iff_each (some : s.samples ≠ []) :
    (∃ r, p.evaluate s c false = .ok r) ↔
      ∀ x ∈ s.samples, ∃ r, p.evaluate (s.only x) c false = .ok r := by
  rw [evaluate_eq_mapM strategy given finite (.submitted valid some) resolved]
  constructor
  · rintro ⟨r, h⟩ x mem
    obtain ⟨samples, h, -⟩ := map_eq_ok.1 h
    obtain ⟨result, -, h⟩ := exists_of_mapM h mem
    exact (exists_evaluate_only strategy given finite valid resolved mem).2 ⟨result, h⟩
  · intro each
    obtain ⟨samples, h⟩ := mapM_of_forall fun x mem =>
      (exists_evaluate_only strategy given finite valid resolved mem).1 (each x mem)
    exact ⟨_, map_eq_ok.2 ⟨samples, h, rfl⟩⟩

/-- Samples that are not evaluated fail as the first one does that is not evaluated by itself. -/
lemma first_of_evaluate (some : s.samples ≠ []) {fault : Fault}
    (h : p.evaluate s c false = .error fault) :
    ∃ before x after, s.samples = before ++ x :: after ∧
      (∀ y ∈ before, ∃ r, p.evaluate (s.only y) c false = .ok r) ∧
      p.evaluate (s.only x) c false = .error fault := by
  rw [evaluate_eq_mapM strategy given finite (.submitted valid some) resolved] at h
  cases settled : s.samples.mapM (p.settle setting named) with
  | ok samples =>
    rw [settled] at h
    cases h
  | error fault' =>
    rw [settled] at h
    cases h
    obtain ⟨before, x, after, split, good, failed⟩ := mapM_eq_error.1 settled
    refine ⟨before, x, after, split, fun y mem => ?_, ?_⟩
    · have mem' : y ∈ s.samples := by simp [split, mem]
      exact (exists_evaluate_only strategy given finite valid resolved mem').2 (good y mem)
    · rw [evaluate_only strategy given finite valid resolved (by simp [split]), failed]
      rfl

/-- In the result each sample is as it is in its own. -/
lemma each_of_evaluate (fine : p.issues = []) (some : s.samples ≠ []) {r : Result}
    (h : p.evaluate s c false = .ok r) :
    List.Forall₂ (fun x result => ∃ r', p.evaluate (s.only x) c false = .ok r' ∧
        r'.samples = [result]) s.samples r.samples ∧
      (∀ result ∈ r.samples, result.evaluated.isSome ∧ result.status.isSome) ∧
      r.status.isSome ∧
      (r.status = .some true ↔ ∀ result ∈ r.samples, result.status = .some true) := by
  have takes : p.Takes s c false s.samples := .submitted valid some
  rw [evaluate_eq_mapM strategy given finite takes resolved] at h
  obtain ⟨samples, all, rfl⟩ := map_eq_ok.1 h
  have each : List.Forall₂ (fun x result => x ∈ s.samples ∧ p.settle setting named x = .ok result)
      s.samples samples :=
    (List.forall₂_and_left _ _).2 ⟨fun x mem => mem, mapM_eq_ok.1 all⟩
  refine ⟨?_, fun result mem => ?_, rfl, by simp [settled]⟩
  · refine each.imp ?_
    rintro x result ⟨mem, own⟩
    rw [evaluate_only strategy given finite valid resolved mem, own]
    exact ⟨_, rfl, rfl⟩
  · obtain ⟨x, hx, own⟩ := exists_mem_of_mapM all mem
    obtain ⟨processed, computed, own⟩ := bind_eq_ok.1 own
    obtain ⟨status, -, own⟩ := bind_eq_ok.1 own
    cases pure_eq_ok.1 own
    exact ⟨isSome_judgedValue fine strategy given takes hx computed, rfl⟩

end

end Point

/-- **Samples come out as they do by themselves.** Let a point of an accepted product be judged
sample by sample. If the limits of its rule are finite, and the samples handed in and the variables
are fine, the evaluation succeeds just if each sample is evaluated by itself, and else it fails as
the first sample does that is not. In the result each sample is as it is by itself, has a value that
was judged and a status, and the item is good just if all of them are. And whatever is evaluated,
the point says what is judged, and every sample that is processed has it. -/
theorem evaluate_sample_by_sample {product : Product} (accepted : product.check = .ok product)
    {p : Point} (mem : p ∈ product.points) (strategy : p.strategy = .perSample) :
    ((∀ rule, p.rule = some rule → rule.Finite) →
      ∀ (s : Submission) (c : Context) named, (s.validate p false).issues = [] → s.samples ≠ [] →
        p.resolveVariables s c = .ok named →
        ((∃ r, p.evaluate s c false = .ok r) ↔
          ∀ x ∈ s.samples, ∃ r, p.evaluate (s.only x) c false = .ok r) ∧
        (∀ fault, p.evaluate s c false = .error fault → ∃ before x after,
          s.samples = before ++ x :: after ∧
          (∀ y ∈ before, ∃ r, p.evaluate (s.only y) c false = .ok r) ∧
          p.evaluate (s.only x) c false = .error fault) ∧
        ∀ r, p.evaluate s c false = .ok r →
          List.Forall₂ (fun x result => ∃ r', p.evaluate (s.only x) c false = .ok r' ∧
            r'.samples = [result]) s.samples r.samples ∧
          (∀ result ∈ r.samples, result.evaluated.isSome ∧ result.status.isSome) ∧
          r.status.isSome ∧
          (r.status = some true ↔ ∀ result ∈ r.samples, result.status = some true)) ∧
    ∀ s c complete raw named processed, p.Takes s c complete raw →
      p.resolveVariables s c = .ok named → p.processSamples named raw = .ok processed →
      ∃ setting, p.setting.perSample = some setting ∧
        ∀ result ∈ processed, (Point.judgedValue setting result).isSome := by
  have fine : p.issues = [] := Product.issues_of_mem (Product.issues_of_check accepted).2 mem
  obtain ⟨setting, given, -⟩ := Point.perSample_of_issues fine strategy
  constructor
  · intro finite s c named valid some resolved
    refine ⟨?_, fun fault h => ?_, fun r h => ?_⟩
    · exact Point.evaluate_iff_each strategy given finite valid resolved some
    · exact Point.first_of_evaluate strategy given finite valid resolved some h
    · exact Point.each_of_evaluate strategy given finite valid resolved fine some h
  · intro s c complete raw named processed takes _ computed
    refine ⟨setting, given, fun result hr => ?_⟩
    obtain ⟨sample, hs, h⟩ := exists_mem_of_mapM computed hr
    exact Point.isSome_judgedValue fine strategy given takes hs h

namespace Strip

/-- Two readings of the drift with a slack. -/
def readings (slack first second : Float) : Submission :=
  ⟨"drift", .ofList [("slack", slack)], [⟨⟨1, Nat.one_pos⟩, some first, none, none⟩,
    ⟨⟨2, Nat.two_pos⟩, some second, none, none⟩]⟩

/-- After a bad reading of the drift a good one is judged too; and where the second reading is too
far from the limit to be computed with, it fails by itself as well. -/
theorem evaluate_sample_by_sample_drift :
    (∃ r, drift.evaluate (readings 0.25 4.0 2.0) (given ["width"]) false = .ok r ∧
      r.samples.map SampleResult.status = [some false, some true] ∧
      ∀ result ∈ r.samples, result.evaluated.isSome ∧ result.status.isSome) ∧
    ∃ x ∈ (readings (-1.7e308) 2.0 1.7e308).samples, ∃ fault,
      drift.evaluate ((readings (-1.7e308) 2.0 1.7e308).only x) (given ["width"]) false =
        .error fault := by
  have finite : ∀ rule, drift.rule = some rule → rule.Finite := by
    rintro rule ⟨⟩
    exact ⟨by decide +kernel, by simp, by simp⟩
  obtain ⟨alike, -⟩ := evaluate_sample_by_sample accepted (p := drift) (by simp [product]) rfl
  constructor
  · have statuses : ((drift.evaluate (readings 0.25 4.0 2.0) (given ["width"]) false).toOption.map
        fun r => r.samples.map SampleResult.status) = some [some false, some true] := by
      decide +kernel
    obtain ⟨r, found, statuses⟩ := Option.map_eq_some_iff.1 statuses
    have h := eq_ok_of_toOption found
    obtain ⟨-, -, each⟩ := alike finite (readings 0.25 4.0 2.0) (given ["width"])
      (.ofList [("slack", 0.25), ("limit", 2.25)]) (by decide +kernel) (by simp [readings])
      (eq_ok_of_toOption (by decide +kernel))
    exact ⟨r, h, statuses, (each r h).2.1⟩
  · obtain ⟨-, first, -⟩ := alike finite (readings (-1.7e308) 2.0 1.7e308) (given ["width"])
      (.ofList [("slack", -1.7e308), ("limit", -1.7e308)]) (by decide +kernel) (by simp [readings])
      (eq_ok_of_toOption (by decide +kernel))
    cases h : drift.evaluate (readings (-1.7e308) 2.0 1.7e308) (given ["width"]) false with
    | ok r =>
      have none : (drift.evaluate (readings (-1.7e308) 2.0 1.7e308) (given ["width"])
          false).toOption = .none := by decide +kernel
      rw [h] at none
      cases none
    | error fault =>
      obtain ⟨before, x, after, split, -, failed⟩ := first fault h
      exact ⟨x, by simp [split], fault, failed⟩

end Strip

end Inspection
