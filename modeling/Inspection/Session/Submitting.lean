import Inspection.Session.Saving

/-!
# Submitting a batch

All items are evaluated and the batch is completed. Items that were saved before and are not
submitted again are evaluated anew from their raw data. If one item fails, nothing is stored.
-/

namespace Inspection.Session

/-- What was handed in for a stored item; a derived one is derived again. -/
def resubmission (product : Product) (r : Result) : Submission :=
  match product.point? r.item with
  | some point =>
    if point.setup.source = .derived then { r.toSubmission with samples := [] } else r.toSubmission
  | none => r.toSubmission

/-- Adds the stored items that were not submitted. -/
def addStored (product : Product) (submissions : Table Submission) :
    List Result → Table Submission
  | [] => submissions
  | r :: rest =>
    if submissions.contains r.item then addStored product submissions rest
    else addStored product (submissions.insert r.item (resubmission product r)) rest

/-- The results of items, one after the other; each needs a status. -/
def evaluateComplete (product : Product) (submissions : Table Submission) (c : Context) :
    List String → Outcome (List Result)
  | [] => .ok []
  | item :: rest => do
    let point ← pointOf product item
    match submissions.find? item with
    | none => evaluateComplete product submissions c rest
    | some submission =>
      let r ← point.evaluate submission c true
      if r.status.isNone then raise (.validation (.text item) .awaitingInstrument)
      else return r :: (← evaluateComplete product submissions (c.addResult r) rest)

/-- Completes a batch with its last items. -/
def submitBatch (s : Session) (id : String) (items : List Json) (measuredBy : Option String) :
    Outcome (Completion × Session) := do
  let submissions ← Submission.parseAll items
  let b ← s.batch id
  requireOpen b id .submit
  let product ← s.product b.product
  let byItem := addStored product (.ofList (submissions.map fun x => (x.item, x))) b.results
  let _ ← byItem.keys.mapM (pointOf product)
  let order ← Outcome.of (.ofFailure ·) (product.evaluationOrder byItem.keys)
  let results ← evaluateComplete product byItem (s.context b submissions) order
  let completion ← Outcome.of .error (b.complete results measuredBy s.now)
  return (completion, ← s.save completion.batch)

end Inspection.Session
