import Inspection.Batch.Creation
import Inspection.Batch.Writing
import Inspection.Evaluation
import Inspection.Product.Order
import Inspection.Registry
import Inspection.Store
import Inspection.Submission.Request

/-!
# Sessions

A session creates batches of the products of a registry, and keeps them in a store. Each operation
works on the batch as it is stored, and only an operation that succeeds changes what is stored.
-/

namespace Inspection

/-- All that operations read and change. -/
structure Session where
  disk : Disk
  registry : Registry
  store : Store
  codes : Codes
  now : Timestamp
  /-- Stands for the average of an item without data. -/
  fallback : Option Float

namespace Session

/-- A stored batch. -/
def batch (s : Session) (id : String) : Outcome Batch :=
  s.store.load s.disk id

/-- A product of the registry. -/
def product (s : Session) (id : String) : Outcome Product :=
  s.registry.product s.disk id

/-- The session with a batch stored. -/
def save (s : Session) (b : Batch) : Outcome Session := do
  let (store, disk) ← s.store.save s.disk b
  return { s with store := store, disk := disk }

/-- The names of the stored batches. -/
def batches (s : Session) : List String :=
  s.store.list s.disk

/-- A point of a product that is at hand. -/
def pointOf (product : Product) (item : String) : Outcome Point :=
  match product.point? item with
  | some point => .ok point
  | none => raise (.pointNotFound product.id (.text item))

/-- The point of a product that a value from outside names. -/
def pointNamed (product : Product) : Json → Outcome Point
  | .text item => pointOf product item
  | j => raise (.pointNotFound product.id j)

/-- What evaluations for a batch see: the batch as stored, and the submissions of the request. -/
def context (s : Session) (b : Batch) (submissions : List Submission) : Context :=
  ⟨some b, .ofList (submissions.map fun x => (x.item, x)), .empty, s.fallback⟩

/-- Creates and stores a batch of a product. Codes are used up even if it fails. -/
def createBatch (s : Session) (product : Json) (request : BatchRequest) :
    Outcome Batch × Session :=
  match s.registry.productNamed s.disk product with
  | .error fault => (.error fault, s)
  | .ok product =>
    let (built, codes) := request.build product s.now s.codes
    let s := { s with codes := codes }
    match built.outcome with
    | .error fault => (.error fault, s)
    | .ok b =>
      match s.save b with
      | .error fault => (.error fault, s)
      | .ok s => (.ok b, s)

/-- The names among values that are to be names; lists and records cannot be. -/
def namesAmong (js : List Json) : Outcome (List String) :=
  if js.all Json.isSimple then
    .ok (js.filterMap fun
      | .text s => some s
      | _ => none)
  else .error .wrongKind

/-- The items that are needed before an item of a batch can be evaluated, besides those submitted
with it. -/
def missingDependencies (s : Session) (id : String) (item : Json) (submitted : List Json) :
    Outcome (List String) := do
  let b ← s.batch id
  let product ← s.product b.product
  let point ← pointNamed product item
  let names ← namesAmong submitted
  Outcome.of (.ofFailure ·) (point.missingDependencies names (s.context b []))

/-- Cancels a batch. -/
def cancelBatch (s : Session) (id : String) : Outcome (Batch × Session) := do
  let b ← Outcome.of .error (← s.batch id).cancel
  return (b, ← s.save b)

end Session

end Inspection
