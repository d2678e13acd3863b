import Inspection.Product.Cycle
import Inspection.Product.Issue
import Inspection.Product.References

/-!
# Checks of products

A product is checked once, before anything is measured by it, and every issue is reported. What
passes has rules that fit, formulas that read only what is there when they are evaluated, and items
that do not read one another in a circle.
-/

namespace Inspection

namespace Point

/-- What is wrong with the rule. -/
def ruleIssues (p : Point) : List PointIssue :=
  match p.setup.nature, p.rule with
  | .qualitative, rule =>
    (if rule.isSome then [.ruleForJudged] else []) ++
      (if p.strategy ≠ .skipCheck then [.checkForJudged] else [])
  | .quantitative, none => [.ruleMissing]
  | .quantitative, some rule =>
    (if p.strategy = .skipCheck then [.noCheckForMeasured] else []) ++
      (if rule.unit = "" then [.unitMissing] else []) ++
      (if rule.kind = .between then
        if rule.toleranceMinus.isNone || rule.tolerancePlus.isNone then [.tolerancesMissing] else []
      else
        if rule.toleranceMinus.isSome || rule.tolerancePlus.isSome then [.tolerancesGiven rule.kind]
        else [])

/-- What is wrong with the source of the samples. -/
def sourceIssues (p : Point) : List PointIssue :=
  if p.setup.source = .derived then
    (if p.derivedSource?.isNone then [.sourceMissing] else []) ++
      (if p.setup.shape ≠ .single ∨ p.setup.nature ≠ .quantitative then [.sourceShape] else [])
  else []

/-- What is wrong with the names that a variable's formula mentions, given the variables declared
before it. -/
def mentionIssues (p : Point) (declared : List String) (variableName : String)
    (r : Formula.References) : List VariableIssue :=
  (r.names.filterMap fun n =>
    if n = variableName then some .readsItself
    else if n ∉ declared then some (.readsUndeclared n)
    else none) ++
  r.averaged.filterMap fun n =>
    if n = p.name then some .averagesOwnItem
    else if n ∈ p.arrayNames then some (.averagesLocal n)
    else none

/-- What is wrong with a variable, given the variables declared before it. -/
def variableIssues (p : Point) (declared : List String) (v : Variable) : List VariableIssue :=
  (if v.name ∈ declared then [.repeated] else []) ++
  match v.kind with
  | .fixed => if v.value.isNone then [.valueMissing] else []
  | .manual =>
    if v.value.isSome || (v.formula.filter (· ≠ "")).isSome then [.valueGiven] else []
  | .formula =>
    match v.formula.filter (· ≠ "") with
    | none => [.formulaMissing]
    | some text =>
      match Formula.references text with
      | .error cause => [.unreadable cause]
      | .ok r => p.mentionIssues declared v.name r

/-- What is wrong with variables, given those declared before them. -/
def variablesIssues (p : Point) (declared : List String) : List Variable → List PointIssue
  | [] => []
  | v :: rest =>
    (p.variableIssues declared v).map (.ofVariable v.name) ++
      p.variablesIssues (Formula.addNew declared v.name) rest

/-- What is wrong with a formula over one sample, given the names that are there before it. -/
def sampleFormulaIssues (available : List String) (f : SampleFormula) : List SampleFormulaIssue :=
  (match Formula.references f.formula with
  | .error cause => [.unreadable cause]
  | .ok r =>
    (r.names.filterMap fun n => if n ∉ available then some (.readsUnknown n) else none) ++
      r.averaged.map .averages) ++
  if f.name ∈ available then [.shadows] else []

/-- What is wrong with formulas over one sample, given the names that are there before them. -/
def sampleFormulasIssues (available : List String) : List SampleFormula → List PointIssue
  | [] => []
  | f :: rest =>
    (sampleFormulaIssues available f).map (.ofSampleFormula f.name) ++
      sampleFormulasIssues (Formula.addNew available f.name) rest

/-- What is wrong with a formula over all samples, given the names that are there before it. -/
def jointFormulaIssues (available : List String) (f : JointFormula) : List JointFormulaIssue :=
  match Formula.references f.formula with
  | .error cause => [.unreadable cause]
  | .ok r => r.names.filterMap fun n => if n ∉ available then some (.readsUnknown n) else none

/-- What is wrong with formulas over all samples, given the names that are there before them. -/
def jointFormulasIssues (available : List String) : List JointFormula → List PointIssue
  | [] => []
  | f :: rest =>
    (jointFormulaIssues available f).map (.ofJointFormula f.name) ++
      jointFormulasIssues (Formula.addNew available f.name) rest

/-- The names of the declared variables. -/
def variableNames (p : Point) : List String :=
  p.declarations.map Variable.name

/-- What is wrong with the settings of the point's strategy. -/
def settingIssues (p : Point) : List PointIssue :=
  match p.strategy with
  | .skipCheck => []
  | .perSample =>
    match p.setting.perSample with
    | none => [.perSampleMissing]
    | some s =>
      if s.rawData then (if p.setup.shape ≠ .single then [.rawDataShape] else [])
      else
        match s.formulaName.filter (· ≠ "") with
        | none => [.formulaNameMissing]
        | some name => if (p.sampleFormula? name).isNone then [.formulaUndeclared name] else []
  | .joint =>
    match p.setting.joint with
    | none => [.jointMissing]
    | some s =>
      if s.formulas.isEmpty then [.jointMissing]
      else
        (if s.finals.length > 1 then [.severalFinals] else []) ++
          jointFormulasIssues (p.variableNames ++ p.arrayNames) s.formulas

/-- What is wrong with a point taken by itself. -/
def issues (p : Point) : List PointIssue :=
  p.ruleIssues ++ p.sourceIssues ++ p.variablesIssues [] p.declarations ++
    sampleFormulasIssues (p.setup.shape.rawNames ++ p.variableNames) p.sampleFormulas ++
    p.settingIssues

end Point

namespace Product

/-- The names of the points. -/
def pointNames (p : Product) : List String :=
  p.points.map Point.name

/-- The names of points that another point before them bears. -/
def repeatedNames (before : List String) : List Point → List String
  | [] => []
  | point :: rest =>
    (if point.name ∈ before then [point.name] else []) ++
      repeatedNames (Formula.addNew before point.name) rest

/-- The issues of a point and of the items that it reads. -/
def pointIssues (p : Product) (point : Point) : List ProductIssue :=
  point.issues.map (.ofPoint point.name) ++
  match point.itemReferences with
  | .error _ => []
  | .ok items =>
    items.filterMap fun item =>
      if item ∉ p.pointNames then some (.unknownItem point.name item) else none

/-- Which items of the product each point reads, as far as its formulas can be read. -/
def readingGraph (p : Product) : Graph :=
  Table.ofList <| p.points.filterMap fun point =>
    match point.itemReferences with
    | .error _ => none
    | .ok items => some (point.name, items.filter (· ∈ p.pointNames))

/-- What is wrong with a product. -/
def issues (p : Product) : List ProductIssue :=
  (repeatedNames [] p.points).map .repeated ++ p.points.flatMap p.pointIssues ++
    (p.readingGraph.cycle?.map .cycle).toList

end Product

end Inspection
