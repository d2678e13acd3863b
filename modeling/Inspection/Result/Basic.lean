import Inspection.Product.Document
import Inspection.Submission.Basic

/-!
# Results

What an evaluated item keeps: its raw data, everything computed from it, and its status.
-/

namespace Inspection

/-- What a status comes to for those who read it. -/
inductive Verdict
  | ok
  | notGood
deriving Repr, DecidableEq

/-- The verdict in words. -/
def Verdict.label : Verdict → String
  | ok => "OK"
  | notGood => "NG"

/-- The verdict of a status: only a true one is good. -/
def Verdict.ofStatus (status : Option Bool) : Verdict :=
  if status = some true then ok else notGood

/-- The computed value of a formula over one sample. -/
structure SampleValue where
  name : String
  formula : String
  value : Option Float
  isShown : Bool
deriving DecidableEq

/-- A sample with everything computed from it. -/
structure SampleResult where
  sample : Sample
  status : Option Bool
  evaluated : Option Float
  values : List SampleValue
deriving DecidableEq

/-- A variable with its value. -/
structure ResolvedVariable where
  name : String
  kind : VariableKind
  value : Float
  formula : Option String
deriving DecidableEq

/-- The computed value of a formula over all samples. -/
structure JointValue where
  name : String
  formula : String
  value : Float
  isFinal : Bool
deriving DecidableEq

/-- The result of one item; its status is missing while the item cannot be judged. -/
structure Result where
  item : String
  strategy : Strategy
  status : Option Bool
  inputs : Table Float
  resolved : List ResolvedVariable
  samples : List SampleResult
  finalValue : Option Float
  jointValues : List JointValue
deriving DecidableEq

namespace SampleResult

/-- The sample with nothing computed yet. -/
def ofSample (s : Sample) : SampleResult :=
  ⟨s, none, none, []⟩

/-- The value of the first formula of a name. -/
def formulaValue (s : SampleResult) (name : String) : Option Float :=
  (s.values.find? fun v => v.name = name).bind SampleValue.value

/-- The number that other items see: what was judged, or else the last computed value, or else the
raw number. -/
def numericValue (s : SampleResult) : Option Float :=
  s.evaluated <|> s.values.reverse.findSome? SampleValue.value <|> s.sample.single

end SampleResult

namespace Result

/-- The verdict of the item. -/
def verdict (r : Result) : Verdict :=
  .ofStatus r.status

/-- The numbers of the samples that have one. -/
def sampleValues (r : Result) : List Float :=
  r.samples.filterMap SampleResult.numericValue

/-- What was handed in for the item. -/
def toSubmission (r : Result) : Submission :=
  ⟨r.item, r.inputs, r.samples.map SampleResult.sample⟩

/-- The raw data of an item that has no verdict yet. -/
def unevaluated (point : Point) (s : Submission) : Result where
  item := point.name
  strategy := point.strategy
  status := none
  inputs := s.inputs
  resolved := []
  samples := s.samples.map .ofSample
  finalValue := none
  jointValues := []

end Result

end Inspection
