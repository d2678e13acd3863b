import Inspection.Formula.References
import Inspection.Product.Issue
import Inspection.Schema.Basic
import Inspection.Submission.Validation

/-!
# Errors

Why something cannot be measured, evaluated or stored, and the words for it.
-/

namespace Inspection

/-- What makes a document no usable product. -/
inductive ProductDefect
  | schema (v : Violation)
  | document (p : Problem)
  | issue (i : ProductIssue)
  | otherProduct (declared : String)
  /-- A defect that is given in words. -/
  | stated (words : String)

/-- The defect in words. -/
def ProductDefect.message : ProductDefect → String
  | schema v => v.text
  | document p => p.text
  | issue i => i.message
  | otherProduct declared => "file declares product_id '" ++ declared ++ "'"
  | stated words => words

/-- What makes a request unfit for its items. -/
inductive RequestDefect
  | issues (issues : List SubmissionIssue)
  | malformed (problems : List Problem)
  | repeated
  | noSamples
  | noPerSampleSetting
  | noItems
  | unjudged (items : List String)
  | awaitingInstrument
  /-- A defect that is given in words. -/
  | stated (words : String)
deriving DecidableEq

/-- Texts with a separator between them. -/
def joined (separator : String) (texts : List String) : String :=
  String.intercalate separator texts

/-- The defect in words. -/
def RequestDefect.message : RequestDefect → String
  | issues is => joined "; " (is.map SubmissionIssue.message)
  | malformed ps => "Malformed submission: " ++ joined "; " (ps.map Problem.text)
  | repeated => "Submitted more than once"
  | noSamples => "No samples submitted"
  | noPerSampleSetting => "PER_SAMPLE item has no per_sample_setting"
  | noItems => "No measurement items submitted"
  | unjudged items => "Items have no verdict yet: " ++ joined ", " items
  | awaitingInstrument => "Waiting for instrument data"
  | stated words => words

/-- Why a variable has no value. -/
inductive VariableCause
  | valueMissing
  | inputMissing
  | formulaMissing
  | formula (failure : Formula.Failure)
  | blocked (names : List String)
  | noData (items : List String)
  /-- A cause that is given in words. -/
  | stated (words : String)
deriving DecidableEq

/-- The cause in words. -/
def VariableCause.message : VariableCause → String
  | valueMissing => "fixed value not set"
  | inputMissing => "missing manual input"
  | formulaMissing => "formula not set"
  | formula failure => failure.cause.reason ++ " in '" ++ failure.text ++ "'"
  | blocked names => "depends on unresolved variable(s): " ++ joined ", " names
  | noData items => "no recorded data for " ++ joined ", " items
  | stated words => words

/-- A variable without a value, why, and the items whose data it lacks. -/
structure VariableFailure where
  name : String
  cause : VariableCause
  missing : List String
deriving DecidableEq

/-- Why an item judged from all samples has no value to judge. -/
inductive FinalValueCause
  | unmarked
  | notComputed (formula : String)
  /-- A cause that is given in words. -/
  | stated (words : String)
deriving Repr, DecidableEq

/-- The cause in words. -/
def FinalValueCause.message : FinalValueCause → String
  | unmarked => "No joint formula is marked is_final_value"
  | notComputed formula => "Final formula '" ++ formula ++ "' did not produce a value"
  | stated words => words

/-- Why something cannot be measured, evaluated or stored. What an error is about may be missing; a
request that cannot be read, or a product, is named by whatever value stands in its place. -/
inductive Error
  | general (words : String)
  | schema (product : Json) (defects : List ProductDefect)
  | validation (item : Json) (defect : RequestDefect)
  | pointNotFound (product : String) (item : Json)
  | missingDependency (item : String) (missing : List String)
  | evaluation (item : Option String) (words : String)
  | expression (item formula text : Option String) (cause : Formula.Cause)
  | unresolved (item : Option String) (failures : List VariableFailure)
  | missingFinal (item : Option String) (cause : FinalValueCause)
  | batchState (batch status action : String)

namespace Error

/-- A message after what it is about. -/
def about (item : Json) (message : String) : String :=
  if item.isPresent then "[" ++ item.display ++ "] " ++ message else message

/-- The reason of an evaluation that failed, without the item. -/
def reason : Error → Option String
  | evaluation _ words => some words
  | expression _ _ _ cause => some cause.reason
  | unresolved _ failures =>
    some ("Unresolved variables: " ++
      joined ", " (failures.map fun f => f.name ++ " (" ++ f.cause.message ++ ")"))
  | missingFinal _ cause => some cause.message
  | _ => none

/-- A formula's reason after the formula's name and before its text. -/
def formulaDetail (formula text : Option String) (reason : String) : String :=
  (match formula.filter (· ≠ "") with
  | some f => "formula '" ++ f ++ "': "
  | none => "") ++ reason ++
  match text with
  | some t => " (in '" ++ t ++ "')"
  | none => ""

/-- The items that are missing, each once. -/
def missingItems : Error → List String
  | missingDependency _ missing => missing
  | unresolved _ failures => (failures.flatMap VariableFailure.missing).foldl Formula.addNew []
  | _ => []

/-- The error in words. -/
def message (e : Error) : String :=
  match e with
  | general words => words
  | schema product defects =>
    "Invalid " ++
      (if product.isPresent then "product " ++ product.display else "measurement schema") ++ ": " ++
      joined "; " (defects.map ProductDefect.message)
  | validation item defect => about item defect.message
  | pointNotFound product item =>
    about item ("Measurement point not found in product " ++ product)
  | missingDependency item missing =>
    "[" ++ item ++ "] requires data from: " ++ joined ", " missing ++
      ". Submit those measurement items first."
  | expression item formula text cause =>
    about (.ofText? item) (formulaDetail formula text cause.reason)
  | evaluation item _ | unresolved item _ | missingFinal item _ =>
    about (.ofText? item) (e.reason.getD "")
  | batchState batch status action =>
    "Cannot " ++ action ++ " batch " ++ batch ++ " in status " ++ status

/-- The error of a formula attributed to an item and a formula; an empty name attributes nothing. -/
def attributed (item formula : Option String) : Error → Error
  | expression i f text cause =>
    expression (item.filter (· ≠ "") <|> i) (formula.filter (· ≠ "") <|> f) text cause
  | e => e

/-- The error of a formula by itself. -/
def ofFailure (f : Formula.Failure) : Error :=
  expression none none (some f.text) f.cause

end Error

end Inspection
