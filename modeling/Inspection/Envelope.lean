import Inspection.Document.Writing

/-!
# Envelopes

What an operation answers a caller with: records, or a reference to where they are stored, and
statistics.
-/

namespace Inspection

/-- What an envelope carries. -/
inductive Payload
  | items (records : List Json)
  | reference (place : String)

/-- An answer with its statistics. -/
structure Envelope where
  version : String
  payload : Payload
  stats : List (String × Json)

namespace Envelope

open Reader

/-- The members of an envelope. -/
def memberNames : List String := ["schema_version", "items", "items_ref", "stats"]

/-- A record, with any members. -/
def anyRecord : Reader (List (String × Json))
  | .record ms => .found ms
  | _ => .refuse .notRecord

/-- A problem for each member that does not belong to an envelope. -/
def readSurplus (ms : List (String × Json)) : Reading Unit :=
  match ms.filter fun m => m.1 ∉ memberNames with
  | [] => .found ()
  | extra => .refused (extra.map fun m => ⟨[.member m.1], .surplus⟩)

/-- The one payload of an envelope. -/
def payload? : Option (List (List (String × Json))) → Option String → Reading Payload
  | some records, none => .found (.items (records.map .record))
  | none, some place => .found (.reference place)
  | _, _ => .refuse .notOnePayload

/-- Reads an envelope from its members. -/
def read (ms : List (String × Json)) : Reading Envelope :=
  ((fun version items place stats (_ : Unit) => (version, items, place, stats))
    <$> optional "schema_version" text "1.0" ms
    <*> absentable "items" (list anyRecord) ms
    <*> absentable "items_ref" text ms
    <*> optional "stats" anyRecord [] ms
    <*> readSurplus ms).andThen fun (version, items, place, stats) =>
      (fun payload => ⟨version, payload, stats⟩) <$> payload? items place

/-- An envelope as a document, without empty statistics. -/
def json (e : Envelope) : Json :=
  .record <|
    [("schema_version", .text e.version),
      match e.payload with
      | .items records => ("items", .list records)
      | .reference place => ("items_ref", .text place)] ++
    if e.stats.isEmpty then [] else [("stats", .record e.stats)]

end Envelope

end Inspection
