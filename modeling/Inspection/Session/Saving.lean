import Inspection.Session.Basic

/-!
# Saving progress

Items are evaluated as far as possible and stored, and the batch stays open. An item that cannot be
evaluated yet is stored with its raw data and without a status; the diagnostics say why.
-/

namespace Inspection

/-- What has come of the items of a request so far. -/
structure Saving where
  context : Context
  diagnostics : Diagnostics
  results : List Result

namespace Saving

/-- Keeps the result of an item, and makes it visible to the items after it. -/
def keep (s : Saving) (r : Result) : Saving :=
  { s with context := s.context.addResult r, results := s.results ++ [r] }

/-- Keeps an evaluated result. It has a status only with the full number of samples. -/
def keepEvaluated (s : Saving) (point : Point) (r : Result) : Saving :=
  let amount := point.setup.sampleAmount.val
  let warn (code : DiagnosticCode) (message : String) : Diagnostics :=
    s.diagnostics.addWarning ⟨.evaluation, code, message, some point.name, none, none⟩
  if r.status.isNone then
    { s with diagnostics := warn .awaitingInstrument "Waiting for instrument data" }.keep r
  else if r.samples.length < amount then
    { s with
      diagnostics := warn .incomplete
        (toString r.samples.length ++ " of " ++ toString amount ++ " samples submitted") }.keep
      { r with status := none }
  else { s with diagnostics := s.diagnostics.markEvaluated point.name }.keep r

/-- Evaluates one more item and keeps what comes of it. -/
def evaluate (s : Saving) (point : Point) (submission : Submission) : Outcome Saving :=
  let validation := submission.validate point false
  let s := { s with diagnostics := s.diagnostics.addValidation validation }
  if !validation.isValid then .ok (s.keep (.unevaluated point submission))
  else
    match point.evaluate submission s.context false with
    | .ok r => .ok (s.keepEvaluated point r)
    | .error (.error e) =>
      .ok ({ s with diagnostics := s.diagnostics.addFailure (some point.name) e }.keep
        (.unevaluated point submission))
    | .error fault => .error fault

/-- Evaluates items one after the other. -/
def evaluateAll (product : Product) (submissions : Table Submission) (s : Saving) :
    List String → Outcome Saving
  | [] => .ok s
  | item :: rest => do
    let point ← Session.pointOf product item
    match submissions.find? item with
    | none => evaluateAll product submissions s rest
    | some submission => evaluateAll product submissions (← s.evaluate point submission) rest

end Saving

namespace Session

/-- Fails unless the batch of a name is open. -/
def requireOpen (b : Batch) (id : String) (action : WriteAction) : Outcome Unit :=
  if b.status.isOpen then .ok ()
  else raise (.batchState id (Keyword.label b.status) action.label)

/-- Saves items of a batch. -/
def saveProgress (s : Session) (id : String) (items : List Json) :
    Outcome (Progress × Session) := do
  let submissions ← Submission.parseAll items
  let b ← s.batch id
  requireOpen b id .save
  let product ← s.product b.product
  let _ ← submissions.mapM fun x => pointOf product x.item
  let byItem : Table Submission := .ofList (submissions.map fun x => (x.item, x))
  let order ← Outcome.of (.ofFailure ·) (product.evaluationOrder byItem.keys)
  let saving ← Saving.evaluateAll product byItem ⟨s.context b submissions, .empty, []⟩ order
  let progress ← Outcome.of .error
    (b.save saving.results (some (saving.diagnostics.report id b.product)))
  return (progress, ← s.save progress.batch)

end Session

end Inspection
