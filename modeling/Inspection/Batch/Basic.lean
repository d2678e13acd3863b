import Inspection.Result.Document
import Inspection.Timestamp

/-!
# Batches

The results of one production lot. A batch is open until it is completed or cancelled; only an open
one may be written to.
-/

namespace Inspection

/-- Where a batch stands. -/
inductive BatchStatus
  | pending
  | inProgress
  | completed
  | cancelled
deriving Repr, DecidableEq

instance : Keyword BatchStatus where
  all := [.pending, .inProgress, .completed, .cancelled]
  label
    | .pending => "PENDING"
    | .inProgress => "IN_PROGRESS"
    | .completed => "COMPLETED"
    | .cancelled => "CANCELLED"

/-- Whether a batch of the status may be written to. -/
def BatchStatus.isOpen : BatchStatus → Bool
  | pending | inProgress => true
  | completed | cancelled => false

/-- The results of one production lot. -/
structure Batch where
  id : String
  product : String
  number : String
  sampleCount : Count
  status : BatchStatus
  overall : Option Bool
  results : List Result
  measuredBy : Option String
  measuredAt : Option Timestamp
  notes : Option String
  createdAt : Timestamp
deriving DecidableEq

/-- The results with one more: in the place of the first one of its item, or else at the end. -/
def putResult (r : Result) : List Result → List Result
  | [] => [r]
  | other :: rest => if other.item = r.item then r :: rest else other :: putResult r rest

namespace Batch

/-- The stored result of an item. -/
def result? (b : Batch) (item : String) : Option Result :=
  b.results.find? fun r => r.item = item

/-- Stores a result. -/
def put (b : Batch) (r : Result) : Batch :=
  { b with results := putResult r b.results }

/-- Stores results one after the other. -/
def putAll (b : Batch) (rs : List Result) : Batch :=
  rs.foldl put b

/-- The percentage of stored items that have a status; all of them once the batch is completed. -/
def progress (b : Batch) : Float :=
  if b.status = .completed then 100.0
  else if b.results.isEmpty then 0.0
  else
    Float.ofNat (b.results.countP fun r => r.status.isSome) / Float.ofNat b.results.length * 100.0

open Reader

/-- Reads a batch. -/
def read : Reader Batch := model "Batch" fun ms =>
  Batch.mk <$> required "measurement_id" text ms
    <*> required "product_id" text ms
    <*> required "batch_number" text ms
    <*> required "sample_count" count ms
    <*> optional "status" keyword .pending ms
    <*> absentable "overall_result" boolean ms
    <*> optional "measurement_results" (list Result.read) [] ms
    <*> absentable "measured_by" text ms
    <*> absentable "measured_at" Timestamp.read ms
    <*> absentable "notes" text ms
    <*> required "created_at" Timestamp.read ms

/-- A batch as a document. -/
def json (b : Batch) : Json :=
  .record [("measurement_id", .text b.id), ("product_id", .text b.product),
    ("batch_number", .text b.number), ("sample_count", .ofCount b.sampleCount),
    ("status", Keyword.json b.status), ("overall_result", .ofBool? b.overall),
    ("measurement_results", .ofList Result.json b.results),
    ("measured_by", .ofText? b.measuredBy), ("measured_at", .ofOption Timestamp.json b.measuredAt),
    ("notes", .ofText? b.notes), ("created_at", b.createdAt.json)]

end Batch

end Inspection
