import Inspection.Fault
import Inspection.Submission.Basic

/-!
# Requests with submissions

The submissions of a request, each of another item.
-/

namespace Inspection.Submission

/-- Reads one submission of a request. -/
def parse (j : Json) : Outcome Submission :=
  match (read j).outcome with
  | .error (.document problems) =>
    raise (.validation ((j.get? "measurement_item_name_id").getD .null) (.malformed problems))
  | outcome => outcome

/-- Reads the submissions of a request, given the items before them. -/
def parseFrom (before : List String) : List Json → Outcome (List Submission)
  | [] => .ok []
  | j :: rest => do
    let s ← parse j
    if s.item ∈ before then raise (.validation (.text s.item) .repeated)
    else return s :: (← parseFrom (s.item :: before) rest)

/-- Reads the submissions of a request. -/
def parseAll (items : List Json) : Outcome (List Submission) :=
  parseFrom [] items

end Inspection.Submission
