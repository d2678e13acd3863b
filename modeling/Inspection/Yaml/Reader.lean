import Inspection.Yaml.Node
import Inspection.Table

/-!
# Reading YAML

The value of a text with at most one document. Members that a record takes over from others come
before its own; of members with one name the last counts.
-/

namespace Inspection.Yaml

/-- Whether a character may stand in a document. -/
def isAllowed (c : Char) : Bool :=
  let n := c.toNat
  n = 9 || n = 10 || n = 13 || (32 ≤ n && n < 127) || n = 0x85 || (0xa0 ≤ n && n < 0xfffe) ||
    0x10000 ≤ n

/-- The members that a value hands over to a record. -/
def handedOver : Json → Except Problem (List (String × Json))
  | .record ms => .ok ms
  | .list items => do
    let parts ← items.mapM fun
      | .record ms => Except.ok ms
      | _ => .error .kind
    return parts.reverse.flatten
  | _ => .error .kind

mutual

/-- The value that a node stands for. -/
def Node.value : Node → Except Problem Json
  | .scalar (.scalar kind) text => valueOf kind text
  | .scalar _ _ => .error .kind
  | .list .list items => .list <$> values items
  | .list .pairs items => .list <$> values items
  | .list _ _ => .error .kind
  | .record .record members => do
    let (taken, own) ← entries members
    return .record (Table.ofList (taken ++ own)).entries
  | .record .keys members => do
    let (taken, own) ← entries members
    return .texts (Table.ofList (taken ++ own)).keys
  | .record _ _ => .error .kind

/-- The values that nodes stand for. -/
def values : List Node → Except Problem (List Json)
  | [] => .ok []
  | n :: rest => do return (← n.value) :: (← values rest)

/-- The members that a record takes over, and its own. -/
def entries :
    List (Node × Node) → Except Problem (List (String × Json) × List (String × Json))
  | [] => .ok ([], [])
  | (key, value) :: rest =>
    match key with
    | .scalar (.scalar .merge) _ => do
      let taken ← handedOver (← value.value)
      let (more, own) ← entries rest
      return (taken ++ more, own)
    | .scalar (.scalar kind) text => do
      let name ← match ← valueOf (if kind = .default then .text else kind) text with
        | .text s => pure s
        | .list _ => pure text
        | j => pure j.shown
      let j ← value.value
      let (taken, own) ← entries rest
      return (taken, (name, j) :: own)
    | _ => .error .kind

end

/-- The value of a text; a text without a document has none. -/
def read (s : String) : Except Problem Json := do
  if !s.toList.all isAllowed then .error .character
  else
    match ← Node.ofTokens? (tokensOf s.toList) with
    | some node => node.value
    | none => return .null

end Inspection.Yaml
