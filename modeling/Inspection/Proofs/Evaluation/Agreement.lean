import Inspection.Evaluation
import Inspection.Proofs.Product.Soundness

/-!
# What evaluations see

An evaluation sees of other items no more than its point reads. Contexts `Agree` on some items if
these have the same numbers in both; the variables of a sound point, its derived samples, and the
formulas over all samples come out the same in contexts that agree on what the point reads
(`resolve_congr`, `derivedSamples_congr`, `judgeJoint_congr`), and so does the evaluation
(`evaluate_congr`).
-/

namespace Inspection

/-- Contexts in which some items have the same numbers. -/
structure Context.Agree (items : List String) (c d : Context) : Prop where
  values : ∀ n ∈ items, c.values n = d.values n
  averaged : ∀ n ∈ items, c.averaged? n = d.averaged? n

namespace Context.Agree

variable {items : List String} {c d : Context}

/-- Contexts with the same fallback agree where items have the same numbers. -/
lemma of_values (fallback : c.fallback = d.fallback)
    (values : ∀ n ∈ items, c.values n = d.values n) : Agree items c d := by
  refine ⟨values, fun n mem => ?_⟩
  rw [averaged?, averaged?, values n mem, fallback]

/-- What agrees on some items agrees on fewer. -/
lemma mono {fewer : List String} (agree : Agree items c d) (sub : ∀ n ∈ fewer, n ∈ items) :
    Agree fewer c d :=
  ⟨fun n mem => agree.values n (sub n mem), fun n mem => agree.averaged n (sub n mem)⟩

/-- Agreement does not depend on which context is named first. -/
lemma symm (agree : Agree items c d) : Agree items d c :=
  ⟨fun n mem => (agree.values n mem).symm, fun n mem => (agree.averaged n mem).symm⟩

end Context.Agree

namespace Resolution

variable {c d : Context}

/-- A variable's formula sees the same where contexts agree on what it averages. -/
lemma bindings_congr {r : Resolution} {averaged : List String}
    (agree : Context.Agree averaged c d) : r.bindings c averaged = r.bindings d averaged := by
  funext name
  by_cases mem : name ∈ averaged
  · rw [bindings, bindings, if_pos mem, if_pos mem, agree.averaged name mem]
  · rw [bindings, bindings, if_neg mem, if_neg mem]

/-- A variable's formula comes out the same where contexts agree on what it averages. -/
lemma resolveFormula_congr {r : Resolution} {name text : String}
    (agree : ∀ refs, Formula.references text = .ok refs → Context.Agree refs.averaged c d) :
    r.resolveFormula c name text = r.resolveFormula d name text := by
  rw [resolveFormula, resolveFormula]
  cases read : Formula.references text with
  | error cause => cases cause <;> rfl
  | ok refs =>
    have same := agree refs read
    have missing : (refs.averaged.filter fun n => (c.averaged? n).isNone) =
        refs.averaged.filter fun n => (d.averaged? n).isNone := by
      apply List.filter_congr
      intro n mem
      rw [same.averaged n mem]
    dsimp only
    rw [missing, bindings_congr same]

end Resolution

namespace Point

variable {p : Point} {items : List String} {c d : Context}

/-- The variables of a sound point come out the same where contexts agree on what it reads. -/
lemma resolve_congr (sound : p.Sound) (reads : p.itemReferences = .ok items)
    (agree : Context.Agree items c d) (inputs : Inputs) (item : Option String) :
    resolve p.declarations inputs c item = resolve p.declarations inputs d item := by
  rw [resolve, resolve]
  congr 1
  apply foldlM_congr
  intro r v mem
  rw [Resolution.step, Resolution.step]
  cases kind : v.kind with
  | fixed => rfl
  | manual => rfl
  | formula =>
    dsimp only
    cases given : v.formula.filter (· ≠ "") with
    | none => rfl
    | some text =>
      dsimp only
      apply Resolution.resolveFormula_congr
      intro refs read
      apply agree.mono
      intro n averaged
      have other : p.AveragesItem n := sound.averagesItem mem kind given read averaged
      exact (mem_itemReferences reads).2 (.inl other)

/-- The samples of a sound derived point are the same where contexts agree on what it reads. -/
lemma derivedSamples_congr (sound : p.Sound) (reads : p.itemReferences = .ok items)
    (agree : Context.Agree items c d) (derived : p.setup.source = .derived) :
    p.derivedSamples c = p.derivedSamples d := by
  obtain ⟨source, given, -⟩ := sound.ofDerived derived
  obtain ⟨n, name⟩ := Option.isSome_iff_exists.1 given
  have mem : n ∈ items := (mem_itemReferences reads).2 (.inr (source.trans name))
  rw [derivedSamples, derivedSamples, name, Option.getD_some, agree.values n mem]

/-- The arrays that formulas over all samples see are named by the point. -/
lemma mem_keys_sampleArrays {samples : List SampleResult} {n : String} :
    n ∈ (p.sampleArrays samples).keys ↔ n ∈ p.arrayNames := by
  rw [sampleArrays, Table.mem_keys_ofList, arrayNames]
  cases p.setup.shape with
  | single => simp [SampleShape.rawNames]
  | beforeAfter => simp [SampleShape.rawNames]

/-- The other items of formulas over all samples are those that one of them averages, arrays
apart. -/
lemma mem_jointReferences {arrays averaged : List String} {fs : List JointFormula}
    (h : jointReferences arrays fs = .ok averaged) {n : String} :
    n ∈ averaged ↔
      ∃ f ∈ fs, ∃ r, Formula.references f.formula = .ok r ∧ n ∈ r.averaged ∧ n ∉ arrays := by
  obtain ⟨refs, read, e⟩ := bind_eq_ok.1 h
  cases pure_eq_ok.1 e
  exact mem_foreign read

/-- What a point's formulas over all samples average are other items. -/
lemma averagesItem_of_joint (strategy : p.strategy = .joint) {setting : JointSetting}
    (given : p.setting.joint = some setting) {samples : List SampleResult} {averaged : List String}
    (h : jointReferences (p.sampleArrays samples).keys setting.formulas = .ok averaged)
    {n : String} (mem : n ∈ averaged) : p.AveragesItem n := by
  obtain ⟨f, hf, r, text, mem, foreign⟩ := (mem_jointReferences h).1 mem
  rw [mem_keys_sampleArrays] at foreign
  have own : f.formula ∈ p.averagingFormulas :=
    mem_averagingFormulas.2 (.inr ⟨strategy, setting, given, f, hf, rfl⟩)
  exact ⟨f.formula, own, r, text, mem, foreign⟩

/-- The verdict over all samples is the same where contexts agree on what the point reads. -/
lemma judgeJoint_congr (reads : p.itemReferences = .ok items) (strategy : p.strategy = .joint)
    (agree : Context.Agree items c d) (named : Table Float) (r : Result) :
    p.judgeJoint c named r = p.judgeJoint d named r := by
  rw [judgeJoint, judgeJoint]
  cases given : p.setting.joint with
  | none => rfl
  | some setting =>
    dsimp only
    split
    case h_1 => rfl
    case h_2 final _ _ =>
      cases h : jointReferences (p.sampleArrays r.samples).keys setting.formulas with
      | error e => rfl
      | ok averaged =>
        have same := agree.mono fun n mem =>
          (mem_itemReferences reads).2 (.inl (averagesItem_of_joint strategy given h mem))
        have missing : (averaged.filter fun n => (c.values n).isEmpty) =
            averaged.filter fun n => (d.values n).isEmpty := by
          apply List.filter_congr
          intro n mem
          rw [same.values n mem]
        have bindings : jointBindings (p.sampleArrays r.samples) averaged c named =
            jointBindings (p.sampleArrays r.samples) averaged d named := by
          funext name
          rw [jointBindings, jointBindings]
          split
          case h_1 => rfl
          case h_2 =>
            by_cases mem : name ∈ averaged
            · rw [if_pos mem, if_pos mem, same.values name mem]
            · rw [if_neg mem, if_neg mem]
        simp only [Outcome.of, ok_bind]
        rw [missing, bindings]

/-- The result of samples is the same where contexts agree on what a sound point reads. -/
lemma evaluateSamples_congr (sound : p.Sound) (reads : p.itemReferences = .ok items)
    (agree : Context.Agree items c d) (s : Submission) (samples : List Sample) :
    p.evaluateSamples s c samples = p.evaluateSamples s d samples := by
  have named : p.resolveVariables s c = p.resolveVariables s d := by
    rw [resolveVariables, resolveVariables, resolve_congr sound reads agree]
  rw [evaluateSamples, evaluateSamples, named]
  congr 1
  funext named
  congr 1
  funext processed
  rw [judge, judge]
  cases strategy : p.strategy with
  | perSample => rfl
  | joint => exact judgeJoint_congr reads strategy agree named _
  | skipCheck => rfl

/-- A sound point comes to the same where contexts agree on what it reads. -/
theorem evaluate_congr (sound : p.Sound) (reads : p.itemReferences = .ok items)
    (agree : Context.Agree items c d) (s : Submission) (complete : Bool) :
    p.evaluate s c complete = p.evaluate s d complete := by
  have ofSamples := evaluateSamples_congr sound reads agree s
  rw [evaluate, evaluate, ofSamples]
  cases source : p.setup.source with
  | manual => rfl
  | instrument => rfl
  | derived => simp only [ofSamples, derivedSamples_congr sound reads agree source]

end Point

end Inspection
