import Inspection.Product.References
import Inspection.Resolution
import Inspection.Result.Basic

/-!
# Evaluation of items

The result of one item: its submission is validated, its variables are resolved, its samples are
processed, and its strategy comes to a status. Nothing is kept between evaluations, so equal inputs
give equal results.

The formulas over one sample are evaluated in order; each sees the raw numbers of the sample, the
variables, and the values of the formulas before it.
-/

namespace Inspection

namespace Sample

/-- The raw numbers under the names that formulas see. -/
def rawNumbers (s : Sample) (shape : SampleShape) : List (String × Float) :=
  match shape, s.single, s.pair with
  | .single, some x, _ => [("single_value", x)]
  | .beforeAfter, _, some p => [("before", p.before), ("after", p.after)]
  | _, _, _ => []

/-- What names in the formulas over a sample stand for before the first is evaluated. -/
def bindings (s : Sample) (shape : SampleShape) (named : Formula.Bindings) :
    Formula.Bindings :=
  fun name =>
    match (s.rawNumbers shape).lookup name with
    | some x => some (.float x)
    | none => named name

/-- The values of formulas over a sample, one after the other. -/
def computeValues (item : Option String) (bindings : Formula.Bindings) :
    List SampleFormula → Outcome (List SampleValue)
  | [] => .ok []
  | f :: rest => do
    match ← evaluateText bindings f.formula with
    | .error failure => .error (.ofFailure failure item (some f.name))
    | .ok x =>
      let values ← computeValues item (bindings.bind f.name (.float x)) rest
      return ⟨f.name, f.formula, some x, f.isShown⟩ :: values

/-- A sample with the values of the formulas over it. -/
def process (s : Sample) (named : Formula.Bindings) (formulas : List SampleFormula)
    (shape : SampleShape) (item : Option String) : Outcome SampleResult := do
  return ⟨s, none, none, ← computeValues item (s.bindings shape named) formulas⟩

end Sample

end Inspection

namespace Inspection.Point

/-- Fails because a request is unfit for the point. -/
def refuse {α : Type} (p : Point) (defect : RequestDefect) : Outcome α :=
  raise (.validation (.text p.name) defect)

/-- Samples with indexes from a first one on. -/
def numbered (first : Nat) : List Float → List Sample
  | [] => []
  | x :: rest => ⟨⟨first + 1, Nat.succ_pos first⟩, some x, none, none⟩ :: numbered (first + 1) rest

/-- The samples that are derived from those of another item. -/
def derivedSamples (p : Point) (c : Context) : Outcome (List Sample) :=
  let source := p.setup.derivedFrom.getD ""
  let values := c.values source
  if values.isEmpty then raise (.missingDependency p.name [source])
  else .ok (numbered 0 values)

/-- The values of the point's variables. If variables fail for want of the data of other items,
those items are reported rather than the variables. -/
def resolveVariables (p : Point) (s : Submission) (c : Context) : Outcome (Table Float) :=
  match resolve p.declarations (.ofTable s.inputs) c (some p.name) with
  | .error (.error e) =>
    let missing := e.missingItems
    if missing.isEmpty then raise e else raise (.missingDependency p.name missing)
  | outcome => outcome

/-- The variables with their values. -/
def resolvedVariables (p : Point) (values : Table Float) : List ResolvedVariable :=
  p.declarations.filterMap fun v =>
    (values.find? v.name).map fun x => ⟨v.name, v.kind, x, v.formula⟩

/-- What is judged of a sample. -/
def judgedValue (setting : PerSampleSetting) (s : SampleResult) : Option Float :=
  if setting.rawData then s.sample.single else s.formulaValue (setting.formulaName.getD "")

/-- A sample judged by the rule. -/
def judgeSample (p : Point) (setting : PerSampleSetting) (s : SampleResult) :
    Outcome SampleResult := do
  let value := judgedValue setting s
  let status ← Outcome.of Fault.ofRule (Rule.accepts p.rule value)
  return { s with status := some status, evaluated := value }

/-- Judges every sample; the item is good if all of them are. -/
def judgeSamples (p : Point) (r : Result) : Outcome Result :=
  match p.setting.perSample with
  | none => p.refuse .noPerSampleSetting
  | some setting => do
    let samples ← r.samples.mapM (p.judgeSample setting)
    return { r with
      samples := samples
      status := some (samples.all fun s => s.status = some true) }

/-- The arrays that formulas over all samples see: the point itself, the raw numbers, and the values
of the formulas over one sample. -/
def sampleArrays (p : Point) (samples : List SampleResult) : Table (List Float) :=
  Table.ofList <|
    (p.name, samples.filterMap SampleResult.numericValue) ::
    (match p.setup.shape with
    | .single => [("single_value", samples.filterMap fun s => s.sample.single)]
    | .beforeAfter =>
      [("before", samples.filterMap fun s => s.sample.pair.map Pair.before),
        ("after", samples.filterMap fun s => s.sample.pair.map Pair.after)]) ++
    p.sampleFormulas.map fun f => (f.name, samples.filterMap fun s => s.formulaValue f.name)

/-- The other items whose average formulas over all samples take. -/
def jointReferences (arrays : List String) (formulas : List JointFormula) :
    Except Formula.Failure (List String) := do
  let references ← formulas.mapM fun f => Formula.referencesOf f.formula
  return addForeign arrays [] (references.flatMap Formula.References.averaged)

/-- What names in the formulas over all samples stand for before the first is evaluated: arrays go
before the samples of other items, and those before variables. -/
def jointBindings (arrays : Table (List Float)) (items : List String) (c : Context)
    (named : Table Float) : Formula.Bindings :=
  fun name =>
    match arrays.find? name with
    | some xs => some (.ofSamples xs)
    | none =>
      if name ∈ items then some (.ofSamples (c.values name))
      else (named.find? name).map .float

/-- The values of formulas over all samples, one after the other. -/
def computeJoint (p : Point) (bindings : Formula.Bindings) :
    List JointFormula → Outcome (List JointValue)
  | [] => .ok []
  | f :: rest => do
    match ← evaluateText bindings f.formula with
    | .error failure => .error (.ofFailure failure (some p.name) (some f.name))
    | .ok x =>
      let values ← p.computeJoint (bindings.bind f.name (.float x)) rest
      return ⟨f.name, f.formula, x, f.isFinal⟩ :: values

/-- Judges the final value of the formulas over all samples. -/
def judgeJoint (p : Point) (c : Context) (named : Table Float) (r : Result) : Outcome Result :=
  match p.setting.joint with
  | none => raise (.missingFinal (some p.name) .unmarked)
  | some setting =>
    match setting.finals with
    | [] => raise (.missingFinal (some p.name) .unmarked)
    | final :: _ => do
      let arrays := p.sampleArrays r.samples
      let items ← Outcome.of (Fault.ofFailure ·) (jointReferences arrays.keys setting.formulas)
      let missing := items.filter fun n => (c.values n).isEmpty
      if !missing.isEmpty then raise (.missingDependency p.name missing)
      else
        let values ← p.computeJoint (jointBindings arrays items c named) setting.formulas
        match values.find? fun v => v.name = final.name with
        | none => raise (.missingFinal (some p.name) (.notComputed final.name))
        | some v =>
          let status ← Outcome.of Fault.ofRule (Rule.accepts p.rule (some v.value))
          return { r with
            jointValues := values
            finalValue := some v.value
            status := some status }

/-- Comes to the status of processed samples by the point's strategy. -/
def judge (p : Point) (c : Context) (named : Table Float) (r : Result) : Outcome Result :=
  match p.strategy with
  | .perSample => p.judgeSamples r
  | .joint => p.judgeJoint c named r
  | .skipCheck => .ok { r with status := some true }

/-- The result of samples. -/
def evaluateSamples (p : Point) (s : Submission) (c : Context) (samples : List Sample) :
    Outcome Result := do
  let named ← p.resolveVariables s c
  let processed ← samples.mapM fun sample =>
    sample.process (fun n => (named.find? n).map .float) p.sampleFormulas p.setup.shape
      (some p.name)
  p.judge c named ⟨p.name, p.strategy, none, s.inputs, p.resolvedVariables named, processed,
    none, []⟩

/-- The result of a submission; `complete` asks for the full number of samples. Without samples, an
item read by an instrument is left without a status, and a derived one takes those of its source. -/
def evaluate (p : Point) (s : Submission) (c : Context) (complete : Bool) : Outcome Result :=
  let issues := (s.validate p complete).issues
  if !issues.isEmpty then p.refuse (.issues issues)
  else if !s.samples.isEmpty then p.evaluateSamples s c s.samples
  else
    match p.setup.source with
    | .manual => p.refuse .noSamples
    | .instrument => .ok ⟨p.name, p.strategy, none, s.inputs, [], [], none, []⟩
    | .derived => do p.evaluateSamples s c (← p.derivedSamples c)

/-- The items that the point reads and that are neither submitted with it nor have data. -/
def missingDependencies (p : Point) (submitted : List String) (c : Context) :
    Except Formula.Failure (List String) := do
  return (← p.itemReferences).filter fun n => n ∉ submitted ∧ (c.values n).isEmpty

end Inspection.Point
