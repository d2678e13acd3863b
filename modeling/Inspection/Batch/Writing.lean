import Inspection.Batch.Summary
import Inspection.Diagnostics.Report

/-!
# Writing to batches

Saving results to a batch, completing it, and cancelling it. Each gives a new batch, and only an
open batch can be written to.
-/

namespace Inspection

/-- What is done to a batch. -/
inductive WriteAction
  | submit
  | save
  | cancel
deriving Repr, DecidableEq

/-- The action in words. -/
def WriteAction.label : WriteAction → String
  | submit => "submit"
  | save => "save progress on"
  | cancel => "cancel"

/-- A completed batch. -/
structure Completion where
  batch : Batch
  summary : Summary
deriving DecidableEq

/-- A batch that results were saved to. -/
structure Progress where
  batch : Batch
  saved : Nat
  report : Option Report

namespace Batch

/-- Fails unless the batch is open. -/
def requireOpen (b : Batch) (action : WriteAction) : Except Error Unit :=
  if b.status.isOpen then .ok ()
  else .error (.batchState b.id (Keyword.label b.status) action.label)

/-- The items without a status. -/
def unjudged (rs : List Result) : List String :=
  (rs.filter fun r => r.status.isNone).map Result.item

/-- Completes a batch with its last results; every stored item needs a status, and the batch is good
if all of them are. -/
def complete (b : Batch) (rs : List Result) (measuredBy : Option String) (measuredAt : Timestamp) :
    Except Error Completion := do
  b.requireOpen .submit
  let merged := b.putAll rs
  if merged.results.isEmpty then .error (.validation .null .noItems)
  else if !(unjudged merged.results).isEmpty then
    .error (.validation .null (.unjudged (unjudged merged.results)))
  else
    let completed := { merged with
      overall := some (merged.results.all fun r => r.status = some true)
      status := .completed
      measuredBy := measuredBy.filter (· ≠ "") <|> merged.measuredBy
      measuredAt := some measuredAt }
    return ⟨completed, .ofResults completed.results⟩

/-- Saves results to a batch; a later result of an item replaces the earlier one. -/
def save (b : Batch) (rs : List Result) (report : Option Report) : Except Error Progress := do
  b.requireOpen .save
  return ⟨{ b.putAll rs with status := .inProgress, overall := none }, rs.length, report⟩

/-- Cancels a batch. -/
def cancel (b : Batch) : Except Error Batch := do
  b.requireOpen .cancel
  return { b with status := .cancelled }

end Batch

namespace Completion

/-- The verdict on the batch. -/
def verdict (c : Completion) : Verdict :=
  .ofStatus c.batch.overall

/-- A completed batch as a document. -/
def json (c : Completion) : Json :=
  .record [("batch", c.batch.json), ("status", Keyword.json c.batch.status),
    ("overall_result", .text c.verdict.label), ("summary", c.summary.json)]

end Completion

namespace Progress

/-- The number of stored items. -/
def total (p : Progress) : Nat :=
  p.batch.results.length

/-- A batch that results were saved to, as a document. -/
def json (p : Progress) : Json :=
  .record [("batch", p.batch.json), ("saved_items", .int p.saved), ("total_items", .int p.total),
    ("progress", .float p.batch.progress), ("diagnostics", .ofOption Report.json p.report)]

end Progress

end Inspection
