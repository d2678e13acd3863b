import Inspection.Text.Quoted

/-!
# Problems of documents

What is wrong with a part of a document, and where that part is.
-/

namespace Inspection

/-- One step down into a document. -/
inductive Step
  | member (name : String)
  | item (position : Nat)
deriving Repr, DecidableEq

/-- The step as paths show it. -/
def Step.text : Step → String
  | member name => name
  | item position => toString position

/-- What is wrong with a part of a document. -/
inductive Mismatch
  | missing
  | surplus
  | notText
  | notNumber
  | unreadableNumber
  | notInteger
  | unreadableInteger
  | fraction
  | notFinite
  | beyondInteger
  | below (least : Nat)
  | notBoolean
  | unreadableBoolean
  | notList
  | notRecord
  | notModel (kind : String)
  | notChoice (labels : List String)
  | notTime
  | inputNotRecord
  | inputUnnamed
  /-- A list or a record stands where a name should be; reading ends there. -/
  | compoundName
  | notOnePayload
deriving Repr, DecidableEq

/-- Quoted labels, the last after `or`. -/
def alternatives : List String → String
  | [] => ""
  | [a] => "'" ++ a ++ "'"
  | [a, b] => "'" ++ a ++ "' or '" ++ b ++ "'"
  | a :: rest => "'" ++ a ++ "', " ++ alternatives rest

/-- The mismatch in words. -/
def Mismatch.message : Mismatch → String
  | missing => "Field required"
  | surplus => "Extra inputs are not permitted"
  | notText => "Input should be a valid string"
  | notNumber => "Input should be a valid number"
  | unreadableNumber => "Input should be a valid number, unable to parse string as a number"
  | notInteger => "Input should be a valid integer"
  | unreadableInteger => "Input should be a valid integer, unable to parse string as an integer"
  | fraction => "Input should be a valid integer, got a number with a fractional part"
  | notFinite => "Input should be a finite number"
  | beyondInteger => "Unable to parse input string as an integer, exceeded maximum size"
  | below least => "Input should be greater than or equal to " ++ toString least
  | notBoolean => "Input should be a valid boolean"
  | unreadableBoolean => "Input should be a valid boolean, unable to interpret input"
  | notList => "Input should be a valid list"
  | notRecord => "Input should be a valid dictionary"
  | notModel kind => "Input should be a valid dictionary or instance of " ++ kind
  | notChoice labels => "Input should be " ++ alternatives labels
  | notTime => "Input should be a valid datetime"
  | inputNotRecord => "Value error, variable_values entries must be objects"
  | inputUnnamed => "Value error, variable_values entries need a name_id"
  | compoundName => ""
  | notOnePayload => "Value error, Must set exactly one of 'items' or 'items_ref'"

/-- A mismatch and where it is. -/
structure Problem where
  path : List Step
  mismatch : Mismatch
deriving Repr, DecidableEq

namespace Problem

/-- The path, its steps parted by points. -/
def place (p : Problem) : String :=
  String.intercalate "." (p.path.map Step.text)

/-- The problem in words, after its place. -/
def text (p : Problem) : String :=
  p.place ++ ": " ++ p.mismatch.message

/-- The problem seen from one step further up. -/
def under (step : Step) (p : Problem) : Problem :=
  { p with path := step :: p.path }

end Problem

end Inspection
