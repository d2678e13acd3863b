import Inspection.Diagnostics.Basic

/-!
# Diagnostic reports

What was found in a request, with a status for each item and for the whole: failed with an error,
partial with a warning or without a verdict, successful otherwise; the whole is as its worst part.
-/

namespace Inspection

/-- How a request or one of its items went. -/
inductive ReportStatus
  | success
  | partially
  | failed
deriving Repr, DecidableEq

/-- The status in words. -/
def ReportStatus.label : ReportStatus → String
  | success => "success"
  | partially => "partial"
  | failed => "failed"

/-- What was found about one item, with its status. -/
structure ItemReport where
  item : String
  status : ReportStatus
  errors : List Diagnostic
  warnings : List Diagnostic

/-- What was found in a request to a batch. -/
structure Report where
  batch : String
  product : String
  status : ReportStatus
  items : List ItemReport
  errors : List Diagnostic
  warnings : List Diagnostic
  evaluated : Nat

namespace Diagnostics

/-- The status of an item. -/
def itemStatus (f : ItemFindings) (evaluated : Bool) : ReportStatus :=
  if !f.errors.isEmpty then .failed
  else if !f.warnings.isEmpty || !evaluated then .partially
  else .success

/-- The items with their status. -/
def itemReports (d : Diagnostics) : List ItemReport :=
  d.items.entries.map fun (item, f) =>
    ⟨item, itemStatus f (item ∈ d.evaluated), f.errors, f.warnings⟩

/-- The status of the whole. -/
def status (d : Diagnostics) : ReportStatus :=
  if !d.errors.isEmpty || d.itemReports.any fun i => i.status = .failed then .failed
  else if !d.warnings.isEmpty || d.itemReports.any fun i => i.status = .partially then .partially
  else .success

/-- The report to a batch of a product. -/
def report (d : Diagnostics) (batch product : String) : Report :=
  ⟨batch, product, d.status, d.itemReports, d.errors, d.warnings, d.evaluated.length⟩

end Diagnostics

open Reader in
/-- Reads one thing that was found. -/
def Diagnostic.read : Reader Diagnostic := model "DiagnosticError" fun ms =>
  Diagnostic.mk <$> required "stage" keyword ms
    <*> DiagnosticCode.stated <$> required "code" text ms
    <*> required "message" text ms
    <*> absentable "item_id" text ms
    <*> absentable "formula_name" text ms
    <*> absentable "details" (fun
      | .record d => .found (.record d)
      | _ => .refuse .notRecord) ms

/-- One thing that was found, as a document. -/
def Diagnostic.json (x : Diagnostic) : Json :=
  .record [("stage", Keyword.json x.stage), ("code", .text x.code.label),
    ("message", .text x.message), ("item_id", .ofText? x.item),
    ("formula_name", .ofText? x.formula), ("details", x.details.getD .null)]

/-- What was found about an item, as a document. -/
def ItemReport.json (i : ItemReport) : Json :=
  .record [("item_id", .text i.item), ("status", .text i.status.label),
    ("errors", .ofList Diagnostic.json i.errors), ("warnings", .ofList Diagnostic.json i.warnings)]

/-- A report as a document. -/
def Report.json (r : Report) : Json :=
  .record [("measurement_id", .text r.batch), ("product_id", .text r.product),
    ("status", .text r.status.label), ("items", .ofList ItemReport.json r.items),
    ("errors", .ofList Diagnostic.json r.errors), ("warnings", .ofList Diagnostic.json r.warnings),
    ("items_total", .int r.items.length), ("items_evaluated", .int r.evaluated)]

end Inspection
