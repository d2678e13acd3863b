import Inspection.Remaining
import Inspection.Table

/-!
# Cycles

The search for a cycle in a graph that is given as a table from nodes to the nodes that their edges
lead to. A node without an entry has no edges.
-/

namespace Inspection

/-- A graph: the targets of the edges of each node. -/
abbrev Graph := Table (List String)

namespace Graph

/-- The part of the trail from a node on, closed by the node. -/
def loop (trail : List String) (node : String) : List String :=
  trail.dropWhile (· ≠ node) ++ [node]

mutual

/-- Visits a node by the trail to it: gives the nodes from which no cycle is reached, those already
known among them, or a cycle. -/
def visit (g : Graph) (trail done : List String) (node : String) :
    Except (List String) (List String) :=
  if _h : node ∈ trail then .error (loop trail node)
  else if node ∈ done then .ok done
  else
    match _hf : g.find? node with
    | none => .ok (node :: done)
    | some targets =>
      match visitAll g (trail ++ [node]) done targets with
      | .ok done => .ok (node :: done)
      | .error cycle => .error cycle
termination_by (remaining g.keys trail, 0)
decreasing_by
  exact Prod.Lex.left _ _ (remaining_step (Table.mem_keys_of_find? _hf) _h)

/-- Visits the targets of edges one after the other. -/
def visitAll (g : Graph) (trail done : List String) (targets : List String) :
    Except (List String) (List String) :=
  match targets with
  | [] => .ok done
  | target :: rest =>
    match visit g trail done target with
    | .ok done => visitAll g trail done rest
    | .error cycle => .error cycle
termination_by (remaining g.keys trail, targets.length + 1)

end

/-- A cycle of the graph, its first node repeated at the end. -/
def cycle? (g : Graph) : Option (List String) :=
  match g.visitAll [] [] g.keys with
  | .ok _ => none
  | .error cycle => some cycle

end Graph

end Inspection
