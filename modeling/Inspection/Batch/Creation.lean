import Inspection.Batch.Basic
import Inspection.Digest.Sha1

/-!
# New batches

A new batch has a code of its own, and a number that is made from the day and a code unless one is
given. Codes are drawn at random, or derived from the product and a counter.
-/

namespace Inspection

/-- Where codes come from. -/
structure Codes where
  /-- Whether codes are derived rather than drawn. -/
  derived : Bool
  /-- How many were derived. -/
  issued : Nat
  /-- The hexadecimal digits of each drawn code, counted from one. -/
  draw : Nat → String
  /-- How many were drawn. -/
  drawn : Nat

namespace Codes

/-- The next code for a seed, with so many digits in upper case. -/
def next (c : Codes) (seed : String) (length : Nat) : String × Codes :=
  if c.derived then
    let n := c.issued + 1
    (Digest.nameCode (seed ++ ":" ++ toString n) length, { c with issued := n })
  else
    let n := c.drawn + 1
    (String.ofList (((c.draw n).toList.take length).map Char.toUpper), { c with drawn := n })

end Codes

/-- What is asked for of a new batch. It comes from outside and is checked like a document; null
asks for nothing. -/
structure BatchRequest where
  number : Json
  sampleCount : Json
  measuredBy : Json
  notes : Json

namespace BatchRequest

/-- The request that asks for nothing. -/
def none : BatchRequest := ⟨.null, .null, .null, .null⟩

/-- The number of samples of a batch unless another is asked for: that of the first point. -/
def defaultCount (product : Product) : Count :=
  match product.points with
  | point :: _ => point.setup.sampleAmount
  | [] => ⟨3, by decide⟩

/-- The number that is asked for, or else one from the day and the next code. -/
def takeNumber (r : BatchRequest) (product : Product) (now : Timestamp) (codes : Codes) :
    Json × Codes :=
  match r.number with
  | .null =>
    let (code, codes) := codes.next (product.id ++ ":batch") 6
    (.text ("BATCH-" ++ now.dayText ++ "-" ++ code), codes)
  | number => (number, codes)

open Reader

/-- A new batch of a product. Codes are used up even if the request is refused. -/
def build (r : BatchRequest) (product : Product) (now : Timestamp) (codes : Codes) :
    Reading Batch × Codes :=
  let (number, codes) := r.takeNumber product now codes
  let (code, codes) := codes.next product.id 8
  let count := match r.sampleCount with
    | .null => .found (defaultCount product)
    | j => (Reader.count j).under (.member "sample_count")
  ((fun number count measuredBy notes =>
      ⟨"MSR-" ++ code, product.id, number, count, .pending, Option.none, [], measuredBy, Option.none,
        notes, now⟩)
    <$> (text number).under (.member "batch_number")
    <*> count
    <*> (nullable text r.measuredBy).under (.member "measured_by")
    <*> (nullable text r.notes).under (.member "notes"), codes)

end BatchRequest

end Inspection
