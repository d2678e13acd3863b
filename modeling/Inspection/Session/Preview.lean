import Inspection.Session.Basic

/-!
# Previews

The result that an item of a batch would have, without storing it. Of the other submissions of the
request only those count that the item reads, directly or through each other.
-/

namespace Inspection.Session

/-- The context after the evaluation of items, one after the other. -/
def evaluateAll (product : Product) (submissions : Table Submission) (c : Context) :
    List String → Outcome Context
  | [] => .ok c
  | item :: rest => do
    let point ← pointOf product item
    match submissions.find? item with
    | none => evaluateAll product submissions c rest
    | some submission =>
      let result ← point.evaluate submission c false
      evaluateAll product submissions (c.addResult result) rest

/-- The submissions of other items than the point's. -/
def othersOf (point : Point) (submissions : List Submission) : Table Submission :=
  .ofList ((submissions.filter fun x => x.item ≠ point.name).map fun x => (x.item, x))

/-- The result of a submission for a batch, with others of the same request. -/
def evaluateItem (s : Session) (id : String) (submission : Json) (others : List Json) :
    Outcome Result := do
  let submission ← Submission.parse submission
  let others ← Submission.parseAll others
  let b ← s.batch id
  let product ← s.product b.product
  let point ← pointOf product submission.item
  let available := othersOf point others
  let needed ← Outcome.of (.ofFailure ·) (product.requestDependencies point available.keys)
  let order ← Outcome.of (.ofFailure ·) (product.evaluationOrder needed)
  let context ← evaluateAll product available (s.context b others) order
  point.evaluate submission context true

end Inspection.Session
