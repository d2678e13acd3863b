import Inspection.Batch.Basic

/-!
# Summaries

How many items of a batch are good, and a line for each.
-/

namespace Inspection

/-- A sample in a summary. -/
structure SampleSummary where
  index : Count
  status : Option Bool
deriving Repr, DecidableEq

/-- An item in a summary. -/
structure ItemSummary where
  item : String
  status : Option Bool
  strategy : Strategy
  finalValue : Option Float
  samples : List SampleSummary
deriving DecidableEq

/-- How many items are good, and the items. -/
structure Summary where
  total : Nat
  passed : Nat
  items : List ItemSummary
deriving DecidableEq

/-- The verdict on a sample; a sample without a status has none. -/
def SampleSummary.label (s : SampleSummary) : String :=
  if s.status.isNone then "N/A" else (Verdict.ofStatus s.status).label

/-- A sample in a summary, as a document. -/
def SampleSummary.json (s : SampleSummary) : Json :=
  .record [("sample_index", .ofCount s.index), ("status", .ofBool? s.status),
    ("result", .text s.label)]

/-- The line of a result. -/
def ItemSummary.ofResult (r : Result) : ItemSummary :=
  ⟨r.item, r.status, r.strategy, r.finalValue, r.samples.map fun s => ⟨s.sample.index, s.status⟩⟩

/-- An item in a summary, as a document. -/
def ItemSummary.json (i : ItemSummary) : Json :=
  .record [("measurement_item", .text i.item), ("status", .ofBool? i.status),
    ("result", .text (Verdict.ofStatus i.status).label), ("evaluation_type", Keyword.json i.strategy),
    ("final_value", .ofFloat? i.finalValue),
    ("samples_summary", .ofList SampleSummary.json i.samples)]

namespace Summary

/-- The summary of results. -/
def ofResults (rs : List Result) : Summary :=
  ⟨rs.length, rs.countP fun r => r.status = some true, rs.map .ofResult⟩

/-- The number of items that are not good. -/
def failed (s : Summary) : Nat :=
  s.total - s.passed

/-- The percentage of good items, to two places. -/
def passRate (s : Summary) : Float :=
  if s.total = 0 then 0.0
  else Decimal.roundedTo 2 (Float.ofNat s.passed / Float.ofNat s.total * 100.0)

/-- A summary as a document. -/
def json (s : Summary) : Json :=
  .record [("total_items", .int s.total), ("passed_items", .int s.passed),
    ("failed_items", .int s.failed), ("pass_rate", .float s.passRate),
    ("item_details", .ofList ItemSummary.json s.items)]

end Summary

end Inspection
