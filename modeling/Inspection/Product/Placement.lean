import Inspection.Product.Basic

/-!
# Placement of points

The order in which points are shown: group by group, each point in the first group that lists it,
and last the points that no group lists.
-/

namespace Inspection

/-- A point in its group. -/
structure Placement where
  group : String
  order : Int
  point : Point
deriving DecidableEq

/-- The name of the group for points that no group lists. -/
def ungroupedName : String := "Ungrouped"

/-- The order of that group. -/
def ungroupedOrder : Int := 999

namespace Product

/-- Takes the points of a group's items out of those that remain. -/
def takeItems (left : Table Point) : List String → List Point × Table Point
  | [] => ([], left)
  | item :: rest =>
    match left.find? item with
    | some point =>
      let (points, left) := takeItems (left.erase item) rest
      (point :: points, left)
    | none => takeItems left rest

/-- Places the points that remain by the groups in their order. -/
def place (left : Table Point) : List Group → List Placement
  | [] => left.values.map fun point => ⟨ungroupedName, ungroupedOrder, point⟩
  | group :: rest =>
    let (points, left) := takeItems left group.items
    points.map (fun point => ⟨group.name, group.order, point⟩) ++ place left rest

/-- The groups by ascending order, those of one order as they are declared. -/
def sortedGroups (p : Product) : List Group :=
  p.groups.mergeSort fun a b => a.order ≤ b.order

/-- The points in the order in which they are shown. -/
def placements (p : Product) : List Placement :=
  place (Table.ofList (p.points.map fun point => (point.name, point))) p.sortedGroups

end Product

end Inspection
