import Inspection.Disk.Basic
import Inspection.Product.Loading

/-!
# Registry

Where products are found: among those registered in memory, or else as documents in a directory.
Every product is checked before it is used.
-/

namespace Inspection

/-- A directory of product documents, the schema that they keep to, and products registered
besides. -/
structure Registry where
  root : Path
  schema : Option Schema
  registered : Table Product

namespace Registry

/-- The directory of the documents. -/
def directory (r : Registry) : Path :=
  r.root.child "products"

/-- The document of a product. -/
def path (r : Registry) (id : String) : Path :=
  r.directory.child (id ++ ".json")

/-- The schema of a file. -/
def readSchema (d : Disk) (p : Path) : Outcome (Option Schema) := do
  return Schema.ofDocument? (← Outcome.of (.ofJsonFlaw .notJson) (Json.read (← d.read p)))

/-- Opens a registry; a schema that is named must be there. -/
def openAt (d : Disk) (root : Path) (schema : Option Path) : Outcome Registry := do
  match schema with
  | some p => return ⟨root, ← readSchema d p, .empty⟩
  | none => return ⟨root, none, .empty⟩

/-- Loads a product from the document of a name. -/
def loadDocument (r : Registry) (d : Disk) (id : String) : Outcome Product := do
  if ← d.pathExists (r.path id) then
    Product.load r.schema
      (← Outcome.of (.ofJsonFlaw .notJson) (Json.read (← d.read (r.path id))))
  else .error (.productNotFound id (r.path id).text)

/-- Loads a product from its document. -/
def load (r : Registry) (d : Disk) (id : String) : Outcome Product := do
  let product ← r.loadDocument d id
  if product.id = id then return product
  else raise (.schema (.text id) [.otherProduct product.id])

/-- The product of a name. -/
def product (r : Registry) (d : Disk) (id : String) : Outcome Product :=
  match r.registered.find? id with
  | some product => .ok product
  | none => r.load d id

/-- The product that a value from outside names. A document that is found by another value than a
text is not of that name. -/
def productNamed (r : Registry) (d : Disk) : Json → Outcome Product
  | .text id => r.product d id
  | j => do
    if j.isSimple then
      raise (.schema j [.otherProduct (← r.loadDocument d j.display).id])
    else .error .wrongKind

/-- The point of a product that values from outside name. -/
def pointNamed (r : Registry) (d : Disk) (id item : Json) : Outcome Point := do
  match item, ← r.productNamed d id with
  | .text name, product =>
    match product.point? name with
    | some point => return point
    | none => raise (.pointNotFound product.id item)
  | _, product => raise (.pointNotFound product.id item)

/-- Registers a product after checking it. -/
def register (r : Registry) (product : Product) : Outcome Registry := do
  let product ← product.check
  return { r with registered := r.registered.insert product.id product }

/-- The names of all products, sorted. -/
def products (r : Registry) (d : Disk) : List String :=
  ((r.registered.keys ++ d.documents r.directory).foldl Formula.addNew []).mergeSort (· ≤ ·)

end Registry

end Inspection
