import Inspection.Yaml.Lexer
import Inspection.Yaml.Scalar

/-!
# Nodes of YAML texts

The tree that the tokens of a document make up: scalars, lists and records with their tags. A name
for a node may be used wherever a node may stand after it; inside the node itself it stands for an
empty list.
-/

namespace Inspection.Yaml

/-- The kind of value that a tag names. -/
inductive Tag
  | scalar (kind : ScalarKind)
  | list
  | record
  | pairs
  | keys
  | unknown
deriving Repr, DecidableEq

/-- A scalar, a list or a record, and the kind of its value. -/
inductive Node
  | scalar (tag : Tag) (text : String)
  | list (tag : Tag) (items : List Node)
  | record (tag : Tag) (members : List (Node × Node))

namespace Tag

/-- What the names of the common tags start with. -/
def commonStart : String := "tag:yaml.org,2002:"

/-- The common tags. -/
def common : List (String × Tag) :=
  [("null", .scalar .null), ("bool", .scalar .boolean), ("int", .scalar .integer),
    ("float", .scalar .number), ("timestamp", .scalar .date), ("str", .scalar .text),
    ("seq", .list), ("map", .record), ("omap", .pairs), ("pairs", .pairs), ("set", .keys)]

/-- The kind of value that a tag of some name stands for. -/
def ofName (name : String) : Tag :=
  ((common.find? fun t => commonStart ++ t.1 = name).map Prod.snd).getD .unknown

end Tag

/-- What is left of the tokens, the prefixes that handles of tags stand for, and the nodes that have
names; a node that is still being read has a name but no value. -/
structure Composer where
  tokens : List Token
  handles : List (String × String)
  names : List (String × Option Node)

namespace Composer

/-- Reading with a state of tokens. -/
abbrev Reads (α : Type) := StateT Composer (Except Problem) α

/-- The next token; a problem in its place ends the reading. -/
def peek : Reads Token := do
  match (← get).tokens with
  | [] => return .finish
  | .failure p :: _ => throw p
  | t :: _ => return t

/-- Goes on after the next token. -/
def skip : Reads Unit :=
  modify fun c => { c with tokens := c.tokens.drop 1 }

/-- Whether the next token is one of some tokens. -/
def sees (ts : List Token) : Reads Bool :=
  return ts.contains (← peek)

/-- Goes on after a token if it is the next one. -/
def takes (t : Token) : Reads Bool := do
  let found ← sees [t]
  if found then skip
  return found

/-- A node that is left out. -/
def absent : Node := .scalar (.scalar .null) ""

/-- The name and the tag before a node, in any order. -/
def properties : Reads (Option String × Option WrittenTag) := do
  match ← peek with
  | .anchor n =>
    skip
    match ← peek with
    | .tag t => skip; return (some n, some t)
    | _ => return (some n, none)
  | .tag t =>
    skip
    match ← peek with
    | .anchor n => skip; return (some n, some t)
    | _ => return (none, some t)
  | _ => return (none, none)

/-- The full name of a tag. -/
def tagName (t : WrittenTag) : Reads String := do
  match t.handle with
  | none => return t.suffix
  | some h =>
    match (← get).handles.lookup h with
    | some start => return start ++ t.suffix
    | none => throw .order

/-- The tag of a scalar: the one that is written, or else what a plain scalar looks like. -/
def scalarTag (name : Option String) (text : String) (isPlain : Bool) : Tag :=
  match name with
  | none => .scalar (if isPlain then kindOf text else .text)
  | some "!" => .scalar (kindOf text)
  | some n => .ofName n

/-- The tag of a list or a record. -/
def tagOr (usual : Tag) (name : Option String) : Tag :=
  match name with
  | none => usual
  | some "!" => usual
  | some n => .ofName n

/-- Gives a node a name, which must be new. -/
def announce (name : Option String) : Reads Unit := do
  match name with
  | none => return
  | some n =>
    if ((← get).names.lookup n).isSome then throw .reference
    else modify fun c => { c with names := (n, none) :: c.names }

/-- Gives the value to a name. -/
def define (name : Option String) (node : Node) : Reads Node := do
  match name with
  | none => return node
  | some n =>
    modify fun c => { c with names := (n, some node) :: c.names }
    return node

/-- The node of a name. -/
def named (name : String) : Reads Node := do
  match (← get).names.lookup name with
  | some (some node) => return node
  | some none => return .list .list []
  | none => throw .reference

mutual

/-- The node here. Lists and records by indentation count where `block` holds, and lists that are
indented no further than their record where `flat` holds. -/
def node : (fuel : Nat) → (block flat : Bool) → Reads Node
  | 0, _, _ => throw .order
  | fuel + 1, block, flat => do
    match ← peek with
    | .alias n => skip; named n
    | _ =>
      let (name, written) ← properties
      let tag ← written.mapM tagName
      match ← peek, block, flat with
      | .item, _, true =>
        announce name
        define name (.list (tagOr .list tag) (← flatItems fuel))
      | .scalar text isPlain, _, _ =>
        skip
        announce name
        define name (.scalar (scalarTag tag text isPlain) text)
      | .flowListStart, _, _ =>
        announce name
        skip
        define name (.list (tagOr .list tag) (← flowItems fuel true))
      | .flowRecordStart, _, _ =>
        announce name
        skip
        define name (.record (tagOr .record tag) (← flowMembers fuel true))
      | .blockListStart, true, _ =>
        announce name
        skip
        define name (.list (tagOr .list tag) (← blockItems fuel))
      | .blockRecordStart, true, _ =>
        announce name
        skip
        define name (.record (tagOr .record tag) (← blockMembers fuel))
      | _, _, _ =>
        if name.isSome || tag.isSome then
          announce name
          define name (.scalar (scalarTag tag "" true) "")
        else throw .order

/-- The items of a list that is indented no further than its record. -/
def flatItems : (fuel : Nat) → Reads (List Node)
  | 0 => throw .order
  | fuel + 1 => do
    if ← takes .item then
      let item ← if ← sees [.item, .key, .value, .blockEnd] then pure absent
        else node fuel true false
      return item :: (← flatItems fuel)
    else return []

/-- The items of a list by indentation. -/
def blockItems : (fuel : Nat) → Reads (List Node)
  | 0 => throw .order
  | fuel + 1 => do
    if ← takes .item then
      let item ← if ← sees [.item, .blockEnd] then pure absent else node fuel true false
      return item :: (← blockItems fuel)
    else if ← takes .blockEnd then return []
    else throw .order

/-- The members of a record by indentation. -/
def blockMembers : (fuel : Nat) → Reads (List (Node × Node))
  | 0 => throw .order
  | fuel + 1 => do
    if ← takes .key then
      let key ← if ← sees [.key, .value, .blockEnd] then pure absent else node fuel true true
      let value ← if ← takes .value then
          if ← sees [.key, .value, .blockEnd] then pure absent else node fuel true true
        else pure absent
      return (key, value) :: (← blockMembers fuel)
    else if ← takes .blockEnd then return []
    else throw .order

/-- The items of a list between brackets; an item with a colon is a record of one member. -/
def flowItems : (fuel : Nat) → (isFirst : Bool) → Reads (List Node)
  | 0, _ => throw .order
  | fuel + 1, isFirst => do
    if ← takes .flowListEnd then return []
    else
      if !isFirst then
        if !(← takes .comma) then throw .order
      if ← takes .key then
        let key ← if ← sees [.value, .comma, .flowListEnd] then pure absent
          else node fuel false false
        let value ← if ← takes .value then
            if ← sees [.comma, .flowListEnd] then pure absent else node fuel false false
          else pure absent
        return .record .record [(key, value)] :: (← flowItems fuel false)
      else if ← takes .flowListEnd then return []
      else
        let item ← node fuel false false
        return item :: (← flowItems fuel false)

/-- The members of a record between brackets; one without a colon has no value. -/
def flowMembers : (fuel : Nat) → (isFirst : Bool) → Reads (List (Node × Node))
  | 0, _ => throw .order
  | fuel + 1, isFirst => do
    if ← takes .flowRecordEnd then return []
    else
      if !isFirst then
        if !(← takes .comma) then throw .order
      if ← takes .key then
        let key ← if ← sees [.value, .comma, .flowRecordEnd] then pure absent
          else node fuel false false
        let value ← if ← takes .value then
            if ← sees [.comma, .flowRecordEnd] then pure absent else node fuel false false
          else pure absent
        return (key, value) :: (← flowMembers fuel false)
      else if ← takes .flowRecordEnd then return []
      else
        let key ← node fuel false false
        return (key, absent) :: (← flowMembers fuel false)

end

/-- The handles that every document has. -/
def usualHandles : List (String × String) := [("!", "!"), ("!!", Tag.commonStart)]

/-- The directives before a document: a version of one, and handles, each at most once. -/
def directives : (fuel : Nat) → (versioned : Bool) → (handles : List (String × String)) →
    Reads Unit
  | 0, _, _ => throw .order
  | fuel + 1, versioned, handles => do
    match ← peek with
    | .directive (.version major) =>
      skip
      if versioned || major ≠ 1 then throw .order
      else directives fuel true handles
    | .directive (.tag h start) =>
      skip
      if (handles.lookup h).isSome then throw .order
      else directives fuel versioned ((h, start) :: handles)
    | .directive .other => skip; directives fuel versioned handles
    | _ => modify fun c => { c with handles := handles ++ usualHandles }

/-- Goes on after the ends of documents. -/
def skipEnds : (fuel : Nat) → Reads Unit
  | 0 => throw .order
  | fuel + 1 => do
    if ← takes .documentEnd then skipEnds fuel

/-- The start of a document that is marked; `false` where the text ends. -/
def starts (fuel : Nat) : Reads Bool := do
  skipEnds fuel
  if ← sees [.finish] then return false
  else
    directives fuel false []
    if ← takes .documentStart then return true else throw .order

/-- Whether the next token is a directive. -/
def seesDirective : Reads Bool := do
  match ← peek with
  | .directive _ => return true
  | _ => return false

/-- The node of the only document of a text, if there is one. -/
def document (fuel : Nat) : Reads (Option Node) := do
  let isMarked ← (do
    if ← seesDirective then return true else sees [.documentStart, .finish])
  if isMarked then
    if ← starts fuel then
      let isEmpty ← (do
        if ← seesDirective then return true
        else sees [.documentStart, .documentEnd, .finish])
      let root ← if isEmpty then pure absent else node fuel true false
      ends fuel root
    else return none
  else
    let root ← node fuel true false
    ends fuel root
where
  /-- The end of the text after its document. -/
  ends (fuel : Nat) (root : Node) : Reads (Option Node) := do
    let _ ← takes .documentEnd
    if ← starts fuel then throw .reference else return some root

end Composer

/-- The node that tokens make up, if they make up any. -/
def Node.ofTokens? (ts : List Token) : Except Problem (Option Node) :=
  (Composer.document (4 * ts.length + 8) |>.run' ⟨ts, Composer.usualHandles, []⟩)

end Inspection.Yaml
