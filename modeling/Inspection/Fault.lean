import Inspection.Error
import Inspection.Formula.Evaluate
import Inspection.Json.Reader
import Inspection.Operation
import Inspection.Rule
import Inspection.Yaml.Problem

/-!
# Faults

All that an operation can end with instead of an answer: an error of its own, or a document, file,
value or number that it cannot work with.
-/

namespace Inspection

/-- A value that an operation cannot work with. -/
inductive ValueFault
  | choiceRegistered
  | undefinedSum
  | unknownShape (shown : String)
  | nullCharacter
  | notNumeric (text : String)
  | unknownOperation
  | itemsNotList
  | batchUnnamed
  | itemUnnamed
  | itemsMissing
  | nullInPath
  /-- An integer in a document has more digits than are read. -/
  | digits (count : Nat)
  | badJson (path : String)
  | badJsonLine (line : Nat)
  | settingsNotRecord (path : String)
  | settingsScalar (p : Yaml.ScalarProblem)
deriving Repr, DecidableEq

/-- The fault in words. -/
def ValueFault.message : ValueFault → String
  | choiceRegistered => "'if' is a built-in special form and cannot be registered"
  | undefinedSum => Number.SumFault.undefined.message
  | unknownShape shown => shown ++ " is not a valid SetupType"
  | nullCharacter => Formula.Obstacle.nullCharacter.message
  | notNumeric text => "could not convert string to float: " ++ Text.quoted text
  | unknownOperation => "'operation' must be one of: " ++ joined ", " Operation.names
  | itemsNotList => "'items' must be a list of item submissions"
  | batchUnnamed => "'measurement_id' or 'product_id' is required in params"
  | itemUnnamed => "'item_id' is required for check_dependencies"
  | itemsMissing => "'items' must contain the item to evaluate"
  | nullInPath => "embedded null byte"
  | digits count => Json.digitsMessage count
  | badJson path => "Invalid JSON in " ++ path
  | badJsonLine line => "Invalid JSON on line " ++ toString line
  | settingsNotRecord path => "Config file must contain a mapping: " ++ path
  | settingsScalar p => p.message

/-- A number beyond the greatest double. -/
inductive OverflowFault
  | hugeInteger
  | sum
deriving Repr, DecidableEq

/-- The fault in words. -/
def OverflowFault.message : OverflowFault → String
  | hugeInteger => "int too large to convert to float"
  | sum => Number.SumFault.overflow.message

/-- What an operation ends with instead of an answer. -/
inductive Fault
  | error (e : Error)
  | document (problems : List Problem)
  | batchNotFound (id : String) (path : Option String)
  | productNotFound (id path : String)
  | value (fault : ValueFault)
  | overflow (fault : OverflowFault)
  /-- Infinities cancel each other, or what is no number is to be put in order. -/
  | undefined
  /-- A value that is no number and no text of one stands where a number is needed. -/
  | wrongKind
  /-- A formula nests too deep to be worked with. -/
  | tooDeep
  | notJson
  /-- The text of the settings is no document. -/
  | settings (p : Yaml.Problem)
  | fileNotFound
  | isDirectory
  /-- A file stands where a directory is needed. -/
  | notDirectory
  /-- A file stands where a directory is to be made. -/
  | fileExists
  /-- A path or a name in it is too long, or it leads to what cannot be replaced. -/
  | unusablePath

namespace Fault

/-- The path where something was expected, as messages add it. -/
def expectedAt (path : String) : String :=
  " (expected at " ++ path ++ ")"

/-- The fault in words, where it has any. -/
def message : Fault → String
  | error e => e.message
  | document problems => joined "; " (problems.map Problem.text)
  | batchNotFound id path => "Batch not found: " ++ id ++ (path.map expectedAt).getD ""
  | productNotFound id path => "Product spec not found: " ++ id ++ expectedAt path
  | value fault => fault.message
  | overflow fault => fault.message
  | undefined | wrongKind | tooDeep | notJson | settings _ | fileNotFound | isDirectory
  | notDirectory | fileExists | unusablePath => ""

/-- The fault of a text that writes no JSON value; one that is malformed has a fault of its own. -/
def ofJsonFlaw (malformed : Fault) : JsonFlaw → Fault
  | .malformed => malformed
  | .digits count => value (.digits count)

/-- The fault of settings whose text is no document. -/
def ofSettings : Yaml.Problem → Fault
  | .scalar p => value (.settingsScalar p)
  | p => settings p

/-- The fault of a sum that does not exist. -/
def ofSum : Number.SumFault → Fault
  | .overflow => overflow .sum
  | .undefined => value .undefinedSum

/-- The fault of a rule without an answer. -/
def ofRule : RuleFault → Fault
  | .undefined => undefined
  | .hugeInteger => overflow .hugeInteger

/-- The fault of a formula's text that cannot be worked with. -/
def ofObstacle : Formula.Obstacle → Fault
  | .nullCharacter => value .nullCharacter
  | .tooDeep => tooDeep

/-- The fault of a formula, attributed to an item and a formula's name where these are known. -/
def ofFailure (f : Formula.Failure) (item formula : Option String := none) : Fault :=
  match f.cause with
  | .unworkable o => ofObstacle o
  | _ => error ((Error.ofFailure f).attributed item formula)

/-- The fault of a formula's text that was evaluated without a number. -/
def ofHalt (text : String) : Formula.Halt → Fault
  | .failure cause => ofFailure ⟨text, cause⟩
  | .hugeInteger => overflow .hugeInteger
  | .unreadable (some t) => value (.notNumeric t)
  | .unreadable none => wrongKind

end Fault

/-- An answer or a fault. -/
abbrev Outcome (α : Type) := Except Fault α

/-- Fails with an error. -/
def raise {α : Type} (e : Error) : Outcome α :=
  .error (.error e)

/-- The outcome of something that fails in a way of its own. -/
def Outcome.of {α ε : Type} (fault : ε → Fault) : Except ε α → Outcome α
  | .ok a => .ok a
  | .error e => .error (fault e)

/-- The outcome of reading a document. -/
def Reading.outcome {α : Type} : Reading α → Outcome α
  | .found a => .ok a
  | .refused problems =>
    if problems.any fun p => p.mismatch = .compoundName then .error .wrongKind
    else .error (.document problems)

end Inspection
