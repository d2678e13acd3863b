import Inspection.Formula.Cause
import Inspection.Product.Basic

/-!
# Issues of products

What keeps a well-formed product from being used, and the words for it.
-/

namespace Inspection

/-- What is wrong with a variable. -/
inductive VariableIssue
  | repeated
  | valueMissing
  | valueGiven
  | formulaMissing
  | unreadable (cause : Formula.Cause)
  | readsItself
  | readsUndeclared (name : String)
  | averagesOwnItem
  | averagesLocal (name : String)
deriving DecidableEq

/-- The issue in words, to follow the name of the variable. -/
def VariableIssue.message : VariableIssue → String
  | repeated => " is declared more than once"
  | valueMissing => ": FIXED variable needs a value"
  | valueGiven => ": MANUAL variable takes its value from input"
  | formulaMissing => ": FORMULA variable needs a formula"
  | unreadable cause => ": " ++ cause.reason
  | readsItself => " references itself"
  | readsUndeclared name => " references '" ++ name ++ "' which is not declared before it"
  | averagesOwnItem => " averages its own measurement item"
  | averagesLocal name =>
    " cannot use AVG(" ++ name ++ "); variables are resolved before samples are processed"

/-- What makes the formula unworkable. -/
def VariableIssue.obstacle? : VariableIssue → Option Formula.Obstacle
  | unreadable (.unworkable o) => some o
  | _ => none

/-- What is wrong with a formula over one sample. -/
inductive SampleFormulaIssue
  | unreadable (cause : Formula.Cause)
  | readsUnknown (name : String)
  | averages (name : String)
  | shadows
deriving DecidableEq

/-- The issue in words, to follow the name of the formula. -/
def SampleFormulaIssue.message : SampleFormulaIssue → String
  | unreadable cause => ": " ++ cause.reason
  | readsUnknown name => " references unknown '" ++ name ++ "'"
  | averages name => " cannot use AVG(" ++ name ++ ") on a single sample"
  | shadows => " shadows an existing name"

/-- What makes the formula unworkable. -/
def SampleFormulaIssue.obstacle? : SampleFormulaIssue → Option Formula.Obstacle
  | unreadable (.unworkable o) => some o
  | _ => none

/-- What is wrong with a formula over all samples. -/
inductive JointFormulaIssue
  | unreadable (cause : Formula.Cause)
  | readsUnknown (name : String)
deriving DecidableEq

/-- The issue in words, to follow the name of the formula. -/
def JointFormulaIssue.message : JointFormulaIssue → String
  | unreadable cause => ": " ++ cause.reason
  | readsUnknown name => " references unknown '" ++ name ++ "'"

/-- What makes the formula unworkable. -/
def JointFormulaIssue.obstacle? : JointFormulaIssue → Option Formula.Obstacle
  | unreadable (.unworkable o) => some o
  | _ => none

/-- What is wrong with a point. -/
inductive PointIssue
  | ruleForJudged
  | checkForJudged
  | ruleMissing
  | noCheckForMeasured
  | unitMissing
  | tolerancesMissing
  | tolerancesGiven (kind : RuleKind)
  | sourceMissing
  | sourceShape
  | ofVariable (name : String) (issue : VariableIssue)
  | ofSampleFormula (name : String) (issue : SampleFormulaIssue)
  | ofJointFormula (name : String) (issue : JointFormulaIssue)
  | perSampleMissing
  | rawDataShape
  | formulaNameMissing
  | formulaUndeclared (name : String)
  | jointMissing
  | severalFinals
deriving DecidableEq

/-- The issue in words. -/
def PointIssue.message : PointIssue → String
  | ruleForJudged => "rule_evaluation_setting must be absent for QUALITATIVE nature"
  | checkForJudged => "evaluation_type must be SKIP_CHECK for QUALITATIVE nature"
  | ruleMissing => "rule_evaluation_setting is required for QUANTITATIVE nature"
  | noCheckForMeasured => "SKIP_CHECK is only allowed for QUALITATIVE nature"
  | unitMissing => "rule unit is required"
  | tolerancesMissing => "tolerance_minus and tolerance_plus are required for BETWEEN rule"
  | tolerancesGiven kind => "tolerances must be absent for " ++ Keyword.label kind ++ " rule"
  | sourceMissing => "source_derived_name_id is required for DERIVED source"
  | sourceShape => "DERIVED source requires a QUANTITATIVE SINGLE setup"
  | ofVariable name issue => "variable '" ++ name ++ "'" ++ issue.message
  | ofSampleFormula name issue => "pre-processing formula '" ++ name ++ "'" ++ issue.message
  | ofJointFormula name issue => "joint formula '" ++ name ++ "'" ++ issue.message
  | perSampleMissing => "per_sample_setting is required for PER_SAMPLE evaluation"
  | rawDataShape => "is_raw_data requires a SINGLE setup type"
  | formulaNameMissing => "pre_processing_formula_name is required when is_raw_data is false"
  | formulaUndeclared name => "pre-processing formula '" ++ name ++ "' is not declared"
  | jointMissing => "joint_setting with formulas is required for JOINT evaluation"
  | severalFinals => "only one joint formula may be marked is_final_value"

/-- What makes a formula of the point unworkable. -/
def PointIssue.obstacle? : PointIssue → Option Formula.Obstacle
  | ofVariable _ issue => issue.obstacle?
  | ofSampleFormula _ issue => issue.obstacle?
  | ofJointFormula _ issue => issue.obstacle?
  | _ => none

/-- What is wrong with a product. -/
inductive ProductIssue
  | repeated (point : String)
  | ofPoint (point : String) (issue : PointIssue)
  | unknownItem (point item : String)
  | cycle (items : List String)
deriving DecidableEq

/-- The issue in words. -/
def ProductIssue.message : ProductIssue → String
  | repeated p => p ++ ": name_id is declared more than once"
  | ofPoint p issue => p ++ ": " ++ issue.message
  | unknownItem p item => p ++ ": references unknown measurement item '" ++ item ++ "'"
  | cycle items =>
    "circular measurement item references: " ++ String.intercalate " -> " items

/-- What makes a formula of the product unworkable. -/
def ProductIssue.obstacle? : ProductIssue → Option Formula.Obstacle
  | ofPoint _ issue => issue.obstacle?
  | _ => none

end Inspection
