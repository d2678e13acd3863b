import Inspection.Disk.Path
import Inspection.Schema.Basic

/-!
# Reading schemas

The schema that a document writes. A reference stands for the schema that it points to; words that
are no demands are passed over. Edition 7 and those before it take a reference alone for the whole
schema, and know lists of schemas for items; later editions do not.
-/

namespace Inspection.Schema

/-- The texts among some values. -/
def textsOf (items : List Json) : List String :=
  items.filterMap fun
    | .text s => some s
    | _ => none

/-- The value that a path of member names leads to. -/
def valueAt (j : Json) : List String → Option Json
  | [] => some j
  | name :: rest => (j.get? name).bind fun j => valueAt j rest

/-- The value that a reference within the document points to. -/
def target? (root : Json) (reference : String) : Option Json :=
  valueAt root (((Path.parts reference.toList).drop 1).map String.ofList)

/-- The kinds that a schema names. -/
def kindsOf : Json → List ValueKind
  | .text s => (ValueKind.ofLabel? s).toList
  | .list items => (textsOf items).filterMap ValueKind.ofLabel?
  | _ => []

/-- Which words a schema may use. -/
inductive Edition
  /-- The seventh draft and those before it. -/
  | early
  /-- The draft of 2019. -/
  | middle
  | latest
deriving Repr, DecidableEq

/-- The edition that a document says it keeps to. -/
def editionOf (document : Json) : Edition :=
  match document.get? "$schema" with
  | some (.text s) =>
    if s.startsWith "http://json-schema.org/draft-0" then .early
    else if s.startsWith "https://json-schema.org/draft/2019-09/schema" then .middle
    else .latest
  | _ => .latest

/-- The demand of a word that has no schemas inside. -/
def simpleConstraint? (word : String) (value : Json) : Option Constraint :=
  match word, value with
  | "type", j => some (.kinds (kindsOf j))
  | "required", .list items => some (.required (textsOf items))
  | "dependentRequired", .record names =>
    some (.dependent (names.map fun (n, j) => (n, match j with
      | .list items => textsOf items
      | _ => [])))
  | "minProperties", .int n => some (.minMembers n.toNat)
  | "maxProperties", .int n => some (.maxMembers n.toNat)
  | "const", j => some (.constant j)
  | "enum", .list items => some (.oneOf items)
  | "pattern", .text s => (Text.Pattern.read s).map (.pattern s)
  | "minLength", .int n => some (.minLength n.toNat)
  | "maxLength", .int n => some (.maxLength n.toNat)
  | "minItems", .int n => some (.minItems n.toNat)
  | "maxItems", .int n => some (.maxItems n.toNat)
  | "uniqueItems", .bool true => some .distinct
  | "minimum", j => some (.minimum j)
  | "maximum", j => some (.maximum j)
  | "exclusiveMinimum", j => some (.moreThan j)
  | "exclusiveMaximum", j => some (.lessThan j)
  | "multipleOf", j => some (.multiple j)
  | _, _ => none

/-- The patterns among the names of a record of schemas. -/
def patternsOf : Json → List (String × Text.Pattern)
  | .record schemas => schemas.filterMap fun (s, _) => (Text.Pattern.read s).map fun p => (s, p)
  | _ => []

/-- The names of the members of a record. -/
def namesOf : Json → List String
  | .record members => members.map Prod.fst
  | _ => []

/-- The number of items that have schemas of their own. -/
def firstCount (members : List (String × Json)) : Nat :=
  match members.lookup "prefixItems" with
  | some (.list schemas) => schemas.length
  | _ => 0

/-- The demand of a word that has schemas inside, which a function reads; `members` holds all words
of the schema. -/
def nestedConstraint? (edition : Edition) (members : List (String × Json)) (part : Json → Schema)
    (word : String) (value : Json) : Option Constraint :=
  match word, value with
  | "properties", .record schemas => some (.properties (schemas.map fun (n, j) => (n, part j)))
  | "patternProperties", .record schemas =>
    some (.matching (schemas.filterMap fun (s, j) =>
      (Text.Pattern.read s).map fun p => (p, part j)))
  | "additionalProperties", j =>
    let named := namesOf ((members.lookup "properties").getD .null)
    let patterns := patternsOf ((members.lookup "patternProperties").getD .null)
    match j with
    | .bool true => none
    | .bool false => some (.noOthers named patterns)
    | j => some (.others named patterns (part j))
  | "propertyNames", j => some (.memberNames (part j))
  | "prefixItems", .list schemas =>
    if edition = .latest then some (.firstItems (schemas.map part)) else none
  | "items", .list schemas =>
    if edition = .latest then none else some (.firstItems (schemas.map part))
  | "items", j =>
    match edition, j with
    | .latest, .bool false => some (.noItems (firstCount members))
    | .latest, j => some (.items (firstCount members) (part j))
    | _, j => some (.items 0 (part j))
  | "contains", j => some (.holds (part j))
  | "allOf", .list schemas => some (.all (schemas.map part))
  | "anyOf", .list schemas => some (.any (schemas.map part))
  | "oneOf", .list schemas => some (.exactlyOne (schemas.map fun j => (j, part j)))
  | "not", j => some (.no j (part j))
  | "if", j =>
    let branch (word : String) : Schema := ((members.lookup word).map part).getD []
    some (.whether (part j) (branch "then") (branch "else"))
  | word, value => simpleConstraint? word value

/-- The schema that a part of a document writes; `depth` bounds how deeply schemas are nested, those
that references stand for included. -/
def readPart (edition : Edition) (root : Json) : (depth : Nat) → Json → Schema
  | 0, _ => []
  | depth + 1, .record members =>
    let part := readPart edition root depth
    let referred (reference : String) : Schema := ((target? root reference).map part).getD []
    match edition, members.lookup "$ref" with
    | .early, some (.text reference) => referred reference
    | _, _ =>
      members.filterMap fun (word, value) =>
        match word, value with
        | "$ref", .text reference => some (.all [referred reference])
        | word, value => nestedConstraint? edition members part word value
  | _, .bool false => [.never]
  | _, _ => []

/-- How deeply schemas are nested at most. -/
def maxDepth : Nat := 100

/-- The schema of a document; an absent or empty document writes none. -/
def ofDocument? (document : Json) : Option Schema :=
  if document.isPresent then some (readPart (editionOf document) document maxDepth document)
  else none

end Inspection.Schema
