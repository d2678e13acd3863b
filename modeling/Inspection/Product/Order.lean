import Inspection.Product.References
import Inspection.Remaining

/-!
# Order of evaluation

Items are evaluated after the items that they read; where nothing forces another order they keep
their own.
-/

namespace Inspection.Product

/-- The items that an item reads; an item that is no point of the product reads none. -/
def references (p : Product) (item : String) : Except Formula.Failure (List String) :=
  match p.point? item with
  | some point => point.itemReferences
  | none => .ok []

mutual

/-- Puts an item behind those already ordered, after the items that it reads. Items that are not
wanted, already ordered, or being placed on the trail to this one are passed over. -/
def placeItem (p : Product) (wanted trail ordered : List String) (item : String) :
    Except Formula.Failure (List String) :=
  if _h : item ∈ wanted ∧ item ∉ trail ∧ item ∉ ordered then
    match p.references item with
    | .error failure => .error failure
    | .ok items =>
      match placeItems p wanted (trail ++ [item]) ordered items with
      | .ok ordered => .ok (ordered ++ [item])
      | .error failure => .error failure
  else .ok ordered
termination_by (remaining wanted trail, 0)
decreasing_by
  exact Prod.Lex.left _ _ (remaining_step _h.1 _h.2.1)

/-- Places items one after the other. -/
def placeItems (p : Product) (wanted trail ordered : List String) (items : List String) :
    Except Formula.Failure (List String) :=
  match items with
  | [] => .ok ordered
  | item :: rest =>
    match placeItem p wanted trail ordered item with
    | .ok ordered => placeItems p wanted trail ordered rest
    | .error failure => .error failure
termination_by (remaining wanted trail, items.length + 1)

end

/-- The items in an order in which each comes after those that it reads. -/
def evaluationOrder (p : Product) (items : List String) : Except Formula.Failure (List String) :=
  p.placeItems items [] [] items

/-- The available items that pending ones lead to, after those already found. -/
def reachable (p : Product) (available : List String) (target : String)
    (found pending : List String) :
    Except Formula.Failure (List String) :=
  match pending with
  | [] => .ok found
  | item :: rest =>
    if _h : item ∈ available ∧ item ∉ found ∧ item ≠ target then
      match p.references item with
      | .error failure => .error failure
      | .ok items => reachable p available target (found ++ [item]) (rest ++ items)
    else reachable p available target found rest
termination_by (remaining available found, pending.length)
decreasing_by
  · exact Prod.Lex.left _ _ (remaining_step _h.1 _h.2.1)
  · exact Prod.Lex.right _ (by simp)

/-- The available items that a point reads, directly or through each other. -/
def requestDependencies (p : Product) (point : Point) (available : List String) :
    Except Formula.Failure (List String) := do
  p.reachable available point.name [] (← point.itemReferences)

end Inspection.Product
