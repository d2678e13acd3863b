import Inspection.Result.Basic

/-!
# Result documents

Reading results from documents, and writing them.
-/

namespace Inspection

open Reader

/-- Reads the value of a formula over one sample. -/
def SampleValue.read : Reader SampleValue := model "PreProcessingValue" fun ms =>
  SampleValue.mk <$> required "name" text ms
    <*> required "formula" text ms
    <*> required "value" (nullable number) ms
    <*> optional "is_show" boolean true ms

/-- The value of a formula over one sample as a document. -/
def SampleValue.json (v : SampleValue) : Json :=
  .record [("name", .text v.name), ("formula", .text v.formula), ("value", .ofFloat? v.value),
    ("is_show", .bool v.isShown)]

/-- Reads a sample with what was computed from it. -/
def SampleResult.read : Reader SampleResult := model "SampleResult" fun ms =>
  SampleResult.mk <$> Sample.readMembers ms
    <*> absentable "status" boolean ms
    <*> absentable "evaluated_value" number ms
    <*> optional "pre_processing_formula_values" (list SampleValue.read) [] ms

/-- A sample with what was computed from it, as a document. -/
def SampleResult.json (s : SampleResult) : Json :=
  .record (s.sample.members ++ [("status", .ofBool? s.status),
    ("evaluated_value", .ofFloat? s.evaluated),
    ("pre_processing_formula_values", .ofList SampleValue.json s.values)])

/-- Reads a variable with its value. -/
def ResolvedVariable.read : Reader ResolvedVariable := model "ResolvedVariable" fun ms =>
  ResolvedVariable.mk <$> required "name" text ms
    <*> required "type" keyword ms
    <*> required "value" number ms
    <*> absentable "formula" text ms

/-- A variable with its value as a document. -/
def ResolvedVariable.json (v : ResolvedVariable) : Json :=
  .record [("name", .text v.name), ("type", Keyword.json v.kind), ("value", .float v.value),
    ("formula", .ofText? v.formula)]

/-- Reads the value of a formula over all samples. -/
def JointValue.read : Reader JointValue := model "JointResult" fun ms =>
  JointValue.mk <$> required "name" text ms
    <*> required "formula" text ms
    <*> required "value" number ms
    <*> optional "is_final_value" boolean false ms

/-- The value of a formula over all samples as a document. -/
def JointValue.json (v : JointValue) : Json :=
  .record [("name", .text v.name), ("formula", .text v.formula), ("value", .float v.value),
    ("is_final_value", .bool v.isFinal)]

/-- Reads a result. -/
def Result.read : Reader Result := model "MeasurementResult" fun ms =>
  Result.mk <$> required "measurement_item_name_id" text ms
    <*> required "evaluation_type" keyword ms
    <*> absentable "status" boolean ms
    <*> optional "variable_values" (table number) .empty ms
    <*> optional "variables" (list ResolvedVariable.read) [] ms
    <*> optional "samples" (list SampleResult.read) [] ms
    <*> absentable "final_value" number ms
    <*> optional "joint_results" (list JointValue.read) [] ms

/-- A result as a document. -/
def Result.json (r : Result) : Json :=
  .record [("measurement_item_name_id", .text r.item), ("evaluation_type", Keyword.json r.strategy),
    ("status", .ofBool? r.status), ("variable_values", .record (r.inputs.map Json.float).entries),
    ("variables", .ofList ResolvedVariable.json r.resolved),
    ("samples", .ofList SampleResult.json r.samples), ("final_value", .ofFloat? r.finalValue),
    ("joint_results", .ofList JointValue.json r.jointValues)]

end Inspection
