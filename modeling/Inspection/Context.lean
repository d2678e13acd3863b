import Inspection.Batch.Basic
import Inspection.Number.Sum

/-!
# Context of an evaluation

Where the formulas of an item find the samples of other items: among the items evaluated in the same
request, among what was handed in with it, and in the batch as it was stored before.
-/

namespace Inspection

/-- What an evaluation sees of other items. -/
structure Context where
  snapshot : Option Batch
  submissions : Table Submission
  evaluated : Table Result
  /-- Stands for the average of an item without data. -/
  fallback : Option Float

namespace Context

/-- A context without data. -/
def empty : Context := ⟨none, .empty, .empty, none⟩

/-- Makes a result visible to the items after it. -/
def addResult (c : Context) (r : Result) : Context :=
  { c with evaluated := c.evaluated.insert r.item r }

/-- The stored result of an item. -/
def stored? (c : Context) (item : String) : Option Result :=
  c.snapshot.bind fun b => b.result? item

/-- The result of an item: the one of this request, or else the stored one. -/
def result? (c : Context) (item : String) : Option Result :=
  c.evaluated.find? item <|> c.stored? item

/-- The raw numbers of a submission. -/
def rawValues (s : Submission) : List Float :=
  s.samples.filterMap Sample.single

/-- The first list that is not empty. -/
def firstData : List (List Float) → List Float
  | [] => []
  | values :: rest => if values.isEmpty then firstData rest else values

/-- The numbers of an item's samples, from the first place that has any; none if no place has. -/
def values (c : Context) (item : String) : List Float :=
  firstData [((c.evaluated.find? item).map Result.sampleValues).getD [],
    ((c.submissions.find? item).map rawValues).getD [],
    ((c.stored? item).map Result.sampleValues).getD []]

/-- The mean of an item's numbers; without data the fallback. -/
def average (c : Context) (item : String) : Except Number.SumFault (Option Float) :=
  let values := c.values item
  if values.isEmpty then .ok c.fallback else do return some (← Number.mean values)

/-- What an average of the item is taken of: its numbers, or the fallback alone. -/
def averaged? (c : Context) (item : String) : Option (List Float) :=
  let values := c.values item
  if values.isEmpty then c.fallback.map ([·]) else some values

end Context

end Inspection
