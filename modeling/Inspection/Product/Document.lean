import Inspection.Product.Basic
import Inspection.Document.Writing

/-!
# Product documents

Reading a product from a document, and writing it as one with every member in place.
-/

namespace Inspection

open Reader

/-- Reads how samples are taken. -/
def Setup.read : Reader Setup := model "Setup" fun ms =>
  Setup.mk <$> absentable "name" text ms
    <*> required "nature" keyword ms
    <*> optional "type" keyword .single ms
    <*> optional "source" keyword .manual ms
    <*> absentable "source_derived_name_id" text ms
    <*> required "sample_amount" count ms

/-- How samples are taken, as a document. -/
def Setup.json (s : Setup) : Json :=
  .record [("name", .ofText? s.name), ("nature", Keyword.json s.nature),
    ("type", Keyword.json s.shape), ("source", Keyword.json s.source),
    ("source_derived_name_id", .ofText? s.derivedFrom),
    ("sample_amount", .ofCount s.sampleAmount)]

/-- Reads a variable. -/
def Variable.read : Reader Variable := model "VariableDecl" fun ms =>
  Variable.mk <$> required "name" text ms
    <*> required "type" keyword ms
    <*> absentable "value" number ms
    <*> absentable "formula" text ms

/-- A variable as a document. -/
def Variable.json (v : Variable) : Json :=
  .record [("name", .text v.name), ("type", Keyword.json v.kind), ("value", .ofFloat? v.value),
    ("formula", .ofText? v.formula)]

/-- Reads a formula over one sample. -/
def SampleFormula.read : Reader SampleFormula := model "PreProcessingFormula" fun ms =>
  SampleFormula.mk <$> required "name" text ms
    <*> required "formula" text ms
    <*> optional "is_show" boolean true ms

/-- A formula over one sample as a document. -/
def SampleFormula.json (f : SampleFormula) : Json :=
  .record [("name", .text f.name), ("formula", .text f.formula), ("is_show", .bool f.isShown)]

/-- Reads a formula over all samples. -/
def JointFormula.read : Reader JointFormula := model "JointFormula" fun ms =>
  JointFormula.mk <$> required "name" text ms
    <*> required "formula" text ms
    <*> optional "is_final_value" boolean false ms

/-- A formula over all samples as a document. -/
def JointFormula.json (f : JointFormula) : Json :=
  .record [("name", .text f.name), ("formula", .text f.formula),
    ("is_final_value", .bool f.isFinal)]

/-- Reads what is judged of a sample. -/
def PerSampleSetting.read : Reader PerSampleSetting := model "PerSampleSetting" fun ms =>
  PerSampleSetting.mk <$> required "is_raw_data" boolean ms
    <*> absentable "pre_processing_formula_name" text ms

/-- What is judged of a sample, as a document. -/
def PerSampleSetting.json (s : PerSampleSetting) : Json :=
  .record [("is_raw_data", .bool s.rawData), ("pre_processing_formula_name", .ofText? s.formulaName)]

/-- Reads the formulas over all samples. -/
def JointSetting.read : Reader JointSetting := model "JointSetting" fun ms =>
  JointSetting.mk <$> required "formulas" (list JointFormula.read) ms

/-- The formulas over all samples as a document. -/
def JointSetting.json (s : JointSetting) : Json :=
  .record [("formulas", .ofList JointFormula.json s.formulas)]

/-- Reads what is judged where nothing is measured. -/
def QualitativeSetting.read : Reader QualitativeSetting := model "QualitativeSetting" fun ms =>
  QualitativeSetting.mk <$> required "label" text ms

/-- What is judged where nothing is measured, as a document. -/
def QualitativeSetting.json (s : QualitativeSetting) : Json :=
  .record [("label", .text s.label)]

/-- Reads the settings of the strategies. -/
def EvaluationSetting.read : Reader EvaluationSetting := model "EvaluationSetting" fun ms =>
  EvaluationSetting.mk <$> absentable "per_sample_setting" PerSampleSetting.read ms
    <*> absentable "joint_setting" JointSetting.read ms
    <*> absentable "qualitative_setting" QualitativeSetting.read ms

/-- The settings of the strategies as a document. -/
def EvaluationSetting.json (s : EvaluationSetting) : Json :=
  .record [("per_sample_setting", .ofOption PerSampleSetting.json s.perSample),
    ("joint_setting", .ofOption JointSetting.json s.joint),
    ("qualitative_setting", .ofOption QualitativeSetting.json s.qualitative)]

/-- Reads a rule of acceptance. -/
def Rule.read : Reader Rule := model "RuleEvaluationSetting" fun ms =>
  Rule.mk <$> required "rule" keyword ms
    <*> required "value" number ms
    <*> required "unit" text ms
    <*> absentable "tolerance_minus" number ms
    <*> absentable "tolerance_plus" number ms

/-- A rule of acceptance as a document. -/
def Rule.json (r : Rule) : Json :=
  .record [("rule", Keyword.json r.kind), ("value", .float r.value), ("unit", .text r.unit),
    ("tolerance_minus", .ofFloat? r.toleranceMinus), ("tolerance_plus", .ofFloat? r.tolerancePlus)]

/-- Reads a measurement point. -/
def Point.read : Reader Point := model "MeasurementPoint" fun ms =>
  Point.mk <$> required "name_id" text ms
    <*> required "setup" Setup.read ms
    <*> optional "variables" (list Variable.read) [] ms
    <*> optional "pre_processing_formulas" (list SampleFormula.read) [] ms
    <*> required "evaluation_type" keyword ms
    <*> optional "evaluation_setting" EvaluationSetting.read ⟨none, none, none⟩ ms
    <*> absentable "rule_evaluation_setting" Rule.read ms

/-- A measurement point as a document. -/
def Point.json (p : Point) : Json :=
  .record [("name_id", .text p.name), ("setup", p.setup.json),
    ("variables", .ofList Variable.json p.declarations),
    ("pre_processing_formulas", .ofList SampleFormula.json p.sampleFormulas),
    ("evaluation_type", Keyword.json p.strategy), ("evaluation_setting", p.setting.json),
    ("rule_evaluation_setting", .ofOption Rule.json p.rule)]

/-- Reads a group. -/
def Group.read : Reader Group := model "MeasurementGroup" fun ms =>
  Group.mk <$> required "group_name" text ms
    <*> optional "order" integer 0 ms
    <*> required "measurement_items" (list text) ms

/-- A group as a document. -/
def Group.json (g : Group) : Json :=
  .record [("group_name", .text g.name), ("order", .int g.order),
    ("measurement_items", .texts g.items)]

/-- The mark that a document is a product's. -/
inductive ProductMark
  | product
deriving Repr, DecidableEq

instance : Keyword ProductMark where
  all := [.product]
  label := fun _ => "product_spec"

/-- Reads a product. -/
def Product.read : Reader Product := model "ProductSpec" fun ms =>
  (fun (_ : ProductMark) => Product.mk) <$> optional "type" keyword .product ms
    <*> required "product_id" text ms
    <*> required "name" text ms
    <*> absentable "category" text ms
    <*> absentable "description" text ms
    <*> required "measurement_points" (list Point.read) ms
    <*> optional "measurement_groups" (list Group.read) [] ms

/-- A product as a document. -/
def Product.json (p : Product) : Json :=
  .record [("type", Keyword.json ProductMark.product), ("product_id", .text p.id),
    ("name", .text p.name), ("category", .ofText? p.category),
    ("description", .ofText? p.description),
    ("measurement_points", .ofList Point.json p.points),
    ("measurement_groups", .ofList Group.json p.groups)]

end Inspection
