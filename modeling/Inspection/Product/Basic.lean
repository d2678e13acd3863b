import Inspection.Document.Reading

/-!
# Products

A product and what is measured on it: its measurement points, each with its samples, variables,
formulas and rule of acceptance, and the groups that points are shown in.
-/

namespace Inspection

/-- Whether a point is measured as a number or judged. -/
inductive Nature
  | quantitative
  | qualitative
deriving Repr, DecidableEq

/-- What is taken down of a sample: one number, or one before and one after a treatment. -/
inductive SampleShape
  | single
  | beforeAfter
deriving Repr, DecidableEq

/-- Where samples come from. -/
inductive Source
  | manual
  | instrument
  | derived
deriving Repr, DecidableEq

/-- Where the value of a variable comes from. -/
inductive VariableKind
  | fixed
  | manual
  | formula
deriving Repr, DecidableEq

/-- How a point comes to its verdict: sample by sample, from all samples at once, or without a
check. -/
inductive Strategy
  | perSample
  | joint
  | skipCheck
deriving Repr, DecidableEq

/-- Which side a threshold bounds. -/
inductive RuleKind
  | min
  | max
  | between
deriving Repr, DecidableEq

instance : Keyword Nature where
  all := [.quantitative, .qualitative]
  label
    | .quantitative => "QUANTITATIVE"
    | .qualitative => "QUALITATIVE"

instance : Keyword SampleShape where
  all := [.single, .beforeAfter]
  label
    | .single => "SINGLE"
    | .beforeAfter => "BEFORE_AFTER"

instance : Keyword Source where
  all := [.manual, .instrument, .derived]
  label
    | .manual => "MANUAL"
    | .instrument => "INSTRUMENT"
    | .derived => "DERIVED"

instance : Keyword VariableKind where
  all := [.fixed, .manual, .formula]
  label
    | .fixed => "FIXED"
    | .manual => "MANUAL"
    | .formula => "FORMULA"

instance : Keyword Strategy where
  all := [.perSample, .joint, .skipCheck]
  label
    | .perSample => "PER_SAMPLE"
    | .joint => "JOINT"
    | .skipCheck => "SKIP_CHECK"

instance : Keyword RuleKind where
  all := [.min, .max, .between]
  label
    | .min => "MIN"
    | .max => "MAX"
    | .between => "BETWEEN"

/-- How the samples of a point are taken. -/
structure Setup where
  name : Option String
  nature : Nature
  shape : SampleShape
  source : Source
  derivedFrom : Option String
  sampleAmount : Count
deriving DecidableEq

/-- A declared variable; the order of declaration is the order of resolution. -/
structure Variable where
  name : String
  kind : VariableKind
  value : Option Float
  formula : Option String
deriving DecidableEq

/-- A formula over one sample. -/
structure SampleFormula where
  name : String
  formula : String
  isShown : Bool
deriving DecidableEq

/-- A formula over all samples. -/
structure JointFormula where
  name : String
  formula : String
  isFinal : Bool
deriving DecidableEq

/-- What is judged of a sample: its own number, or the value of a formula. -/
structure PerSampleSetting where
  rawData : Bool
  formulaName : Option String
deriving DecidableEq

/-- The formulas over all samples; the final one is judged. -/
structure JointSetting where
  formulas : List JointFormula
deriving DecidableEq

/-- What is judged where nothing is measured. -/
structure QualitativeSetting where
  label : String
deriving DecidableEq

/-- The settings of the strategies; only that of the point's own strategy is used. -/
structure EvaluationSetting where
  perSample : Option PerSampleSetting
  joint : Option JointSetting
  qualitative : Option QualitativeSetting
deriving DecidableEq

/-- A rule of acceptance. -/
structure Rule where
  kind : RuleKind
  value : Float
  unit : String
  toleranceMinus : Option Float
  tolerancePlus : Option Float
deriving DecidableEq

/-- One quality characteristic that is measured on a product. -/
structure Point where
  name : String
  setup : Setup
  declarations : List Variable
  sampleFormulas : List SampleFormula
  strategy : Strategy
  setting : EvaluationSetting
  rule : Option Rule
deriving DecidableEq

/-- A group that points are shown in; groups are shown by ascending order. -/
structure Group where
  name : String
  order : Int
  items : List String
deriving DecidableEq

/-- A product with its measurement points. -/
structure Product where
  id : String
  name : String
  category : Option String
  description : Option String
  points : List Point
  groups : List Group
deriving DecidableEq

/-- The formulas whose value is final. -/
def JointSetting.finals (s : JointSetting) : List JointFormula :=
  s.formulas.filter JointFormula.isFinal

/-- The names under which formulas see the raw numbers of a sample. -/
def SampleShape.rawNames : SampleShape → List String
  | single => ["single_value"]
  | beforeAfter => ["before", "after"]

namespace Point

/-- The first variable of a name. -/
def findVariable? (p : Point) (name : String) : Option Variable :=
  p.declarations.find? fun v => v.name = name

/-- The first formula over one sample of a name. -/
def sampleFormula? (p : Point) (name : String) : Option SampleFormula :=
  p.sampleFormulas.find? fun f => f.name = name

/-- The names under which formulas over all samples see arrays: the point itself, the raw numbers,
and the formulas over one sample. -/
def arrayNames (p : Point) : List String :=
  p.name :: p.setup.shape.rawNames ++ p.sampleFormulas.map SampleFormula.name

end Point

/-- The first point of a name. -/
def Product.point? (p : Product) (name : String) : Option Point :=
  p.points.find? fun point => point.name = name

end Inspection
