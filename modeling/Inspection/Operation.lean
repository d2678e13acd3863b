import Inspection.Document.Reading

/-!
# Operations

What a request may ask for.
-/

namespace Inspection

/-- An operation on a batch. -/
inductive Operation
  | checkDependencies
  | evaluateItem
  | saveProgress
  | submit
deriving Repr, DecidableEq

instance : Keyword Operation where
  all := [.checkDependencies, .evaluateItem, .saveProgress, .submit]
  label
    | .checkDependencies => "check_dependencies"
    | .evaluateItem => "evaluate_item"
    | .saveProgress => "save_progress"
    | .submit => "submit"

namespace Operation

/-- The names of all operations. -/
def names : List String :=
  (Keyword.all (α := Operation)).map Keyword.label

/-- The operation that a value names. -/
def ofJson? : Json → Option Operation
  | .text s => Keyword.all.find? fun o => Keyword.label o = s
  | _ => none

end Operation

end Inspection
