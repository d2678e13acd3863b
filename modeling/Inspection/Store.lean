import Inspection.Batch.Basic
import Inspection.Disk.Basic

/-!
# Stores

Where batches are kept: in memory, or as documents in a directory, one for each batch.
-/

namespace Inspection

/-- A place for batches. -/
inductive Store
  | memory (batches : Table Batch)
  | directory (root : Path)

namespace Store

/-- A place in memory without batches. -/
def empty : Store := memory .empty

/-- The document of a batch in a directory. -/
def documentPath (root : Path) (id : String) : Path :=
  root.child (id ++ ".json")

/-- Loads a batch. -/
def load (s : Store) (d : Disk) (id : String) : Outcome Batch :=
  match s with
  | memory batches =>
    match batches.find? id with
    | some b => .ok b
    | none => .error (.batchNotFound id none)
  | directory root => do
    let path := documentPath root id
    if ← d.pathExists path then (Batch.read (← d.readDocument path)).outcome
    else .error (.batchNotFound id (some path.text))

/-- Saves a batch under its own name. -/
def save (s : Store) (d : Disk) (b : Batch) : Outcome (Store × Disk) :=
  match s with
  | memory batches => .ok (memory (batches.insert b.id b), d)
  | directory root => do
    return (s, ← d.replace (documentPath root b.id) b.json.document)

/-- The names of the stored batches, sorted. -/
def list (s : Store) (d : Disk) : List String :=
  match s with
  | memory batches => batches.keys.mergeSort (· ≤ ·)
  | directory root => d.documents root

end Store

end Inspection
