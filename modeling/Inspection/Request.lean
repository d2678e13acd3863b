import Inspection.Envelope
import Inspection.Session.Preview
import Inspection.Session.Submitting
import Inspection.Site

/-!
# Requests

A request names an operation, the batch it is for, and what it needs besides. Without a batch a new
one is created first; it stays, also if the operation fails. The answer is an envelope with the
records of the operation and its statistics.
-/

namespace Inspection

/-- A request from outside. What it names is only looked at when it is needed, and null, as what is
empty, names nothing. -/
structure Request where
  operation : Operation
  /-- The submissions. -/
  items : List Json
  batch : Json
  /-- The product of a new batch. -/
  product : Json
  /-- The item whose dependencies are asked for. -/
  item : Json
  measuredBy : Option String
  options : List (String × Json)

/-- The records that answer an operation, and its own statistics. -/
structure Answer where
  records : List Json
  stats : List (String × Json)

namespace Request

/-- The member of a name, or null. -/
def member (ms : List (String × Json)) (name : String) : Json :=
  (ms.lookup name).getD .null

/-- Reads a request. -/
def read (ms : List (String × Json)) : Outcome Request :=
  match Operation.ofJson? (member ms "operation"), (ms.lookup "items").getD (.list []) with
  | none, _ => .error (.value .unknownOperation)
  | some operation, .list items =>
    let measuredBy := match member ms "measured_by" with
      | .text s => some s
      | _ => none
    let options := match member ms "config" with
      | .record options => options
      | _ => []
    .ok ⟨operation, items, member ms "measurement_id", member ms "product_id", member ms "item_id",
      measuredBy, options⟩
  | some _, _ => .error (.value .itemsNotList)

/-- The path that a value names; what is empty names none. -/
def path? (j : Json) : Outcome (Option Path) :=
  match j with
  | .text s => .ok (if s = "" then none else some (.ofText s))
  | j => if j.isPresent then .error .wrongKind else .ok none

/-- How the session of a request works. -/
def sessionOptions (r : Request) (s : Site) : Outcome SessionOptions := do
  let registry ← Settings.findRegistry s.disk s.environment
    (← path? (member r.options "product_registry_path"))
  let schema ← path? (member r.options "product_schema_path")
  let path ← path? (member r.options "batch_store_path")
  let store ← Settings.findStore s.disk s.environment path
  SessionOptions.ofMembers registry schema (.directory store) r.options

/-- The batch of a request: the one it names, or else a new one. -/
def findBatch (r : Request) (s : Session) : Outcome Json × Session :=
  if r.batch.isPresent then (.ok r.batch, s)
  else if r.product.isPresent then
    match s.createBatch r.product .none with
    | (.ok b, s) => (.ok (.text b.id), s)
    | (.error fault, s) => (.error fault, s)
  else (.error (.value .batchUnnamed), s)

/-- What names the items that are submitted with the request. -/
def submitted (r : Request) : List Json :=
  r.items.filterMap fun
    | .record ms => some (member ms "measurement_item_name_id")
    | _ => none

/-- The answer about the items that an item needs. -/
def answerDependencies (r : Request) (s : Session) (id : String) : Outcome Answer := do
  if r.item.isPresent then
    let missing ← s.missingDependencies id r.item r.submitted
    return ⟨[.record [("measurement_item_name_id", r.item), ("missing_items", .texts missing)]],
      [("missing", .int missing.length)]⟩
  else .error (.value .itemUnnamed)

/-- The answer with the result that the first item would have. -/
def answerPreview (r : Request) (s : Session) (id : String) : Outcome Answer :=
  match r.items with
  | [] => .error (.value .itemsMissing)
  | item :: others => do
    let result ← s.evaluateItem id item others
    return ⟨[result.json], [("status", .ofBool? result.status)]⟩

/-- The answer to saved items. -/
def ofProgress (p : Progress) : Answer :=
  ⟨p.batch.results.map Result.json, [("saved_items", .int p.saved), ("total_items", .int p.total),
    ("progress", .float p.batch.progress)]⟩

/-- The answer to a completed batch. -/
def ofCompletion (c : Completion) : Answer :=
  ⟨c.batch.results.map Result.json, [("overall_result", .text c.verdict.label),
    ("passed", .int c.summary.passed), ("failed", .int c.summary.failed),
    ("pass_rate", .float c.summary.passRate)]⟩

/-- Fails if a list or record names the batch, which is not held by such a name while it is written
to. Submissions are read before. -/
def requireHold (r : Request) : Outcome Unit := do
  let _ ← Submission.parseAll r.items
  if r.batch.isSimple then return else .error .wrongKind

/-- Carries out the operation on a batch. -/
def answer (r : Request) (s : Session) (id : String) : Outcome (Answer × Session) :=
  match r.operation with
  | .checkDependencies => do return (← r.answerDependencies s id, s)
  | .evaluateItem => do return (← r.answerPreview s id, s)
  | .saveProgress => do
    r.requireHold
    let (progress, s) ← s.saveProgress id r.items
    return (ofProgress progress, s)
  | .submit => do
    r.requireHold
    let (completion, s) ← s.submitBatch id r.items r.measuredBy
    return (ofCompletion completion, s)

/-- The envelope of an answer. -/
def envelope (r : Request) (batch : Json) (a : Answer) : Envelope :=
  ⟨"1.0", .items a.records,
    [("input", .int r.items.length), ("measurement_id", batch)] ++ a.stats ++
    [("output", .int a.records.length)]⟩

/-- Carries out a request in a session. -/
def runIn (r : Request) (s : Session) : Outcome Envelope × Session :=
  match r.findBatch s with
  | (.error fault, s) => (.error fault, s)
  | (.ok batch, s) =>
    match r.answer s batch.display with
    | .error fault => (.error fault, s)
    | .ok (a, s) => (.ok (r.envelope batch a), s)

/-- Carries out a request at a site. -/
def run (ms : List (String × Json)) (s : Site) : Outcome Envelope × Site :=
  let opened : Outcome (Request × Session) := do
    let r ← read ms
    return (r, ← s.openSession (← r.sessionOptions s))
  match opened with
  | .error fault => (.error fault, s)
  | .ok (r, session) =>
    let (envelope, session) := r.runIn session
    (envelope, s.after session)

end Request

end Inspection
