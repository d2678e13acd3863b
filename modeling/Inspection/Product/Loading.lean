import Inspection.Fault
import Inspection.Product.Check
import Inspection.Product.Document
import Inspection.Schema.Reader

/-!
# Loading of products

A product document becomes a product if it keeps to the schema, has all its members, and passes the
checks.
-/

namespace Inspection.Product

/-- The name that a document gives its product, whatever it is. -/
def declaredId (data : Json) : Json :=
  (data.get? "product_id").getD .null

/-- Issues that were found, unless one is a formula that cannot be worked with. -/
def reported (issues : List ProductIssue) : Outcome (List ProductIssue) :=
  match issues.findSome? ProductIssue.obstacle? with
  | some o => .error (.ofObstacle o)
  | none => .ok issues

/-- Checks a product. -/
def check (p : Product) : Outcome Product := do
  let issues ← reported p.issues
  if issues.isEmpty then return p
  else raise (.schema (.text p.id) (issues.map .issue))

/-- The product of a document, which keeps to a schema if there is one. -/
def load (schema : Option Schema) (data : Json) : Outcome Product :=
  match schema.bind fun s => s.violation? data with
  | some v => raise (.schema (declaredId data) [.schema v])
  | none =>
    match Product.read data with
    | .refused problems => raise (.schema (declaredId data) (problems.map .document))
    | .found p => p.check

end Inspection.Product
