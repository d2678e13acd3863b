import Inspection.Document.Writing

/-!
# Submissions

What is handed in for one item: the raw numbers or judgements of its samples, and the values of its
manual variables.
-/

namespace Inspection

/-- A number before and one after a treatment. -/
structure Pair where
  before : Float
  after : Float
deriving DecidableEq

/-- What was taken down of one sample. -/
structure Sample where
  index : Count
  single : Option Float
  pair : Option Pair
  judgement : Option Bool
deriving DecidableEq

/-- What is handed in for one item. -/
structure Submission where
  item : String
  inputs : Table Float
  samples : List Sample
deriving DecidableEq

open Reader

/-- Reads a pair of numbers. -/
def Pair.read : Reader Pair := model "BeforeAfterValue" fun ms =>
  Pair.mk <$> required "before" number ms <*> required "after" number ms

/-- A pair of numbers as a document. -/
def Pair.json (p : Pair) : Json :=
  .record [("before", .float p.before), ("after", .float p.after)]

/-- Reads the members of a sample. -/
def Sample.readMembers (ms : List (String × Json)) : Reading Sample :=
  Sample.mk <$> required "sample_index" count ms
    <*> absentable "single_value" number ms
    <*> absentable "before_after_value" Pair.read ms
    <*> absentable "qualitative_value" boolean ms

/-- Reads a sample. -/
def Sample.read : Reader Sample := model "Sample" Sample.readMembers

/-- The members of a sample. -/
def Sample.members (s : Sample) : List (String × Json) :=
  [("sample_index", .ofCount s.index), ("single_value", .ofFloat? s.single),
    ("before_after_value", .ofOption Pair.json s.pair),
    ("qualitative_value", .ofBool? s.judgement)]

/-- A sample as a document. -/
def Sample.json (s : Sample) : Json :=
  .record s.members

namespace Submission

/-- The name and value of one entry of a list of inputs. -/
def entry : Json → Except Mismatch (Json × Json)
  | .record ms =>
    match (ms.lookup "name_id").getD ((ms.lookup "name").getD .null) with
    | .null => .error .inputUnnamed
    | .list _ | .record _ => .error .compoundName
    | name => .ok (name, (ms.lookup "value").getD .null)
  | _ => .error .inputNotRecord

/-- The name of an input as paths show it: truth values as the numbers that they stand for. -/
def shownName : Json → String
  | .bool b => if b then "1" else "0"
  | name => name.display

/-- Reads the entry of a list of inputs under its name, which must be a text. -/
def readEntry (name value : Json) : Reading (String × Float) :=
  (Prod.mk <$> (text name).under (.member "[key]") <*> number value).under
    (.member (shownName name))

/-- A text that two names share just if they count as the same: numbers and truth values by their
values, and what is no number never. -/
def nameKey (position : Nat) : Json → String
  | .text s => "text " ++ s
  | .bool b => if b then "1" else "0"
  | .int n => toString n
  | .float x =>
    if x.isNaN then "nan " ++ toString position
    else match Reader.whole? x with
      | some n => toString n
      | none => "bits " ++ toString x.toBits
  | j => j.shown

/-- Adds an entry to those before it; one of a name that is there replaces its value only. -/
def addEntry (entries : Table (Json × Json)) (key : String) (name value : Json) :
    Table (Json × Json) :=
  match entries.find? key with
  | some (first, _) => entries.insert key (first, value)
  | none => entries.insert key (name, value)

/-- Reads inputs: a record from names to numbers, or a list of entries, of which later ones of a
name replace earlier ones. -/
def readInputs : Reader (Table Float)
  | .list items =>
    match items.mapM entry with
    | .error m => .refuse m
    | .ok entries =>
      let latest := entries.zipIdx.foldl
        (fun t (e, i) => addEntry t (nameKey i e.1) e.1 e.2) Table.empty
      Table.ofList <$> readAll latest.values
  | j => table number j
where
  /-- Reads entries one after the other. -/
  readAll : List (Json × Json) → Reading (List (String × Float))
    | [] => .found []
    | (name, value) :: rest => List.cons <$> readEntry name value <*> readAll rest

/-- Reads a submission. -/
def read : Reader Submission := model "ItemSubmission" fun ms =>
  Submission.mk <$> required "measurement_item_name_id" text ms
    <*> optional "variable_values" readInputs .empty ms
    <*> optional "samples" (list Sample.read) [] ms

/-- A submission as a document. -/
def json (s : Submission) : Json :=
  .record [("measurement_item_name_id", .text s.item),
    ("variable_values", .record (s.inputs.map Json.float).entries),
    ("samples", .ofList Sample.json s.samples)]

end Submission

end Inspection
