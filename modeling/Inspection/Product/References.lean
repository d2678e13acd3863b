import Inspection.Formula.References
import Inspection.Product.Basic

/-!
# Items that points read

A point reads other items where its formulas take their average, and where its samples are derived
from them.
-/

namespace Inspection.Point

/-- The formulas in which an average may be that of another item. -/
def averagingFormulas (p : Point) : List String :=
  (p.declarations.filterMap fun v =>
    if v.kind = .formula then v.formula.filter (· ≠ "") else none) ++
  match p.strategy, p.setting.joint with
  | .joint, some s => s.formulas.map JointFormula.formula
  | _, _ => []

/-- The item that the point's samples are derived from. -/
def derivedSource? (p : Point) : Option String :=
  if p.setup.source = .derived then p.setup.derivedFrom.filter (· ≠ "") else none

/-- Adds the names that are not local, each once. -/
def addForeign (arrays : List String) (found names : List String) : List String :=
  names.foldl (fun found n => if n ∈ arrays then found else Formula.addNew found n) found

/-- The other items that the point reads, in the order of first mention. -/
def itemReferences (p : Point) : Except Formula.Failure (List String) := do
  let references ← p.averagingFormulas.mapM Formula.referencesOf
  let averaged := references.flatMap Formula.References.averaged
  let found := addForeign p.arrayNames [] averaged
  return match p.derivedSource? with
    | some source => Formula.addNew found source
    | none => found

end Inspection.Point
