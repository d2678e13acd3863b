import Inspection.Document.Writing
import Inspection.Error

/-!
# Diagnostics

Why items of a request have no verdict. What may still come, such as data of other items, is a
warning; what makes a formula or a submission unusable is an error.
-/

namespace Inspection

/-- Where in an evaluation something was found. -/
inductive Stage
  | validation
  | resolution
  | processing
  | evaluation
  | aggregation
deriving Repr, DecidableEq

instance : Keyword Stage where
  all := [.validation, .resolution, .processing, .evaluation, .aggregation]
  label
    | .validation => "validation"
    | .resolution => "resolution"
    | .processing => "processing"
    | .evaluation => "evaluation"
    | .aggregation => "aggregation"

/-- What was found, as a code. -/
inductive DiagnosticCode
  | invalid
  | noted
  | missingDependency
  | expression
  | unresolved
  | missingFinal
  | evaluation
  | other
  | awaitingInstrument
  | incomplete
  /-- A code that is given in words. -/
  | stated (words : String)
deriving Repr, DecidableEq

/-- The code in words. -/
def DiagnosticCode.label : DiagnosticCode → String
  | invalid => "VALIDATION_ERROR"
  | noted => "VALIDATION_WARNING"
  | missingDependency => "MISSING_DEPENDENCY"
  | expression => "EXPRESSION_ERROR"
  | unresolved => "UNRESOLVED_VARIABLE"
  | missingFinal => "MISSING_FINAL_VALUE"
  | evaluation => "EVALUATION_ERROR"
  | other => "ERROR"
  | awaitingInstrument => "AWAITING_INSTRUMENT"
  | incomplete => "INCOMPLETE_SAMPLES"
  | stated words => words

/-- One thing that was found. -/
structure Diagnostic where
  stage : Stage
  code : DiagnosticCode
  message : String
  item : Option String
  formula : Option String
  details : Option Json

/-- What was found about one item. -/
structure ItemFindings where
  errors : List Diagnostic
  warnings : List Diagnostic

/-- What was found in a request: about no item, about items in the order of first mention, and which
items came to a verdict. -/
structure Diagnostics where
  errors : List Diagnostic
  warnings : List Diagnostic
  items : Table ItemFindings
  evaluated : List String

namespace Diagnostics

/-- Nothing found. -/
def empty : Diagnostics := ⟨[], [], .empty, []⟩

/-- What was found about an item so far. -/
def findings (d : Diagnostics) (item : String) : ItemFindings :=
  (d.items.find? item).getD ⟨[], []⟩

/-- Mentions an item. -/
def mention (d : Diagnostics) (item : String) : Diagnostics :=
  { d with items := d.items.insert item (d.findings item) }

/-- Adds an error; one about a named item goes to the item. -/
def addError (d : Diagnostics) (x : Diagnostic) : Diagnostics :=
  match x.item.filter (· ≠ "") with
  | some item =>
    let f := d.findings item
    { d with items := d.items.insert item { f with errors := f.errors ++ [x] } }
  | none => { d with errors := d.errors ++ [x] }

/-- Adds a warning; one about a named item goes to the item. -/
def addWarning (d : Diagnostics) (x : Diagnostic) : Diagnostics :=
  match x.item.filter (· ≠ "") with
  | some item =>
    let f := d.findings item
    { d with items := d.items.insert item { f with warnings := f.warnings ++ [x] } }
  | none => { d with warnings := d.warnings ++ [x] }

/-- Notes that an item came to a verdict. -/
def markEvaluated (d : Diagnostics) (item : String) : Diagnostics :=
  { d.mention item with evaluated := Formula.addNew d.evaluated item }

/-- Adds what a validation found. -/
def addValidation (d : Diagnostics) (v : Validation) : Diagnostics :=
  let d := v.issues.foldl
    (fun d i => d.addError ⟨.validation, .invalid, i.message, some v.item, none, none⟩)
    (d.mention v.item)
  v.notes.foldl
    (fun d n => d.addWarning ⟨.validation, .noted, n.message, some v.item, none, none⟩) d

/-- Adds why an item could not be evaluated. -/
def addFailure (d : Diagnostics) (item : Option String) (e : Error) : Diagnostics :=
  match e with
  | .missingDependency _ missing =>
    d.addWarning ⟨.resolution, .missingDependency, e.message, item, none,
      some (.record [("missing_items", .texts missing)])⟩
  | .expression _ formula text _ =>
    d.addError ⟨.processing, .expression, e.message, item, formula,
      some (.record [("expression", .ofText? text)])⟩
  | .unresolved _ failures =>
    failures.foldl
      (fun d f =>
        d.addError ⟨.resolution, .unresolved, f.cause.message, item, some f.name, none⟩) d
  | .missingFinal .. => d.addError ⟨.evaluation, .missingFinal, e.message, item, none, none⟩
  | .validation .. | .pointNotFound .. =>
    d.addError ⟨.validation, .invalid, e.message, item, none, none⟩
  | .evaluation .. => d.addError ⟨.evaluation, .evaluation, e.message, item, none, none⟩
  | .general _ | .schema .. | .batchState .. =>
    d.addError ⟨.aggregation, .other, e.message, item, none, none⟩

end Diagnostics

end Inspection
