import Inspection.Schema.Violation
import Inspection.Text.Pattern

/-!
# Schemas

What a schema demands of a document, and where a document falls short of it.
-/

namespace Inspection

/-- One demand of a schema. A demand concerns only values of the kind it speaks of. -/
inductive Constraint
  | kinds (kinds : List ValueKind)
  | required (names : List String)
  | properties (schemas : List (String × List Constraint))
  /-- Members whose names hold what a pattern describes. -/
  | matching (schemas : List (Text.Pattern × List Constraint))
  /-- Members that are neither named nor matched. -/
  | others (named : List String) (patterns : List (String × Text.Pattern))
    (schema : List Constraint)
  /-- There are no members that are neither named nor matched. -/
  | noOthers (named : List String) (patterns : List (String × Text.Pattern))
  | memberNames (schema : List Constraint)
  | dependent (names : List (String × List String))
  | minMembers (least : Nat)
  | maxMembers (most : Nat)
  /-- The items from a position on. -/
  | items (start : Nat) (schema : List Constraint)
  /-- There are no items from a position on. -/
  | noItems (start : Nat)
  /-- The first items, each by a schema of its own. -/
  | firstItems (schemas : List (List Constraint))
  | holds (schema : List Constraint)
  | minItems (least : Nat)
  | maxItems (most : Nat)
  | distinct
  | constant (value : Json)
  | oneOf (values : List Json)
  | pattern (source : String) (pattern : Text.Pattern)
  | minLength (least : Nat)
  | maxLength (most : Nat)
  | minimum (least : Json)
  | maximum (most : Json)
  | moreThan (least : Json)
  | lessThan (most : Json)
  | multiple (unit : Json)
  | all (schemas : List (List Constraint))
  | any (schemas : List (List Constraint))
  /-- Exactly one of some schemas, each with its document. -/
  | exactlyOne (schemas : List (Json × List Constraint))
  | no (source : Json) (schema : List Constraint)
  /-- A second schema where the first one is kept to, and a third one where it is not. -/
  | whether (condition yes no : List Constraint)
  | never

/-- A schema: all of its demands hold. -/
abbrev Schema := List Constraint

namespace Schema

/-- The kinds that a schema asks for. -/
def kindsOf? : List Constraint → Option (List ValueKind)
  | [] => none
  | .kinds ks :: _ => some ks
  | _ :: rest => kindsOf? rest

/-- Whether a value is of a kind that its schema asks for. -/
def fitsKinds (kinds : Option (List ValueKind)) (j : Json) : Bool :=
  match kinds with
  | some ks => ks.any fun k => j.isOf k
  | none => false

/-- A violation at this place unless the condition holds. -/
def demand (fitsKind : Bool) (holds : Bool) (s : Shortfall) : List Violation :=
  if holds then [] else [⟨[], s, ⟨[], false, fitsKind⟩⟩]

/-- The violations of the items of a list, by a check of one item. -/
def ofItems (check : Json → List Violation) : Nat → List Json → List Violation
  | _, [] => []
  | i, item :: rest =>
    (check item).map (Violation.under (.item i)) ++ ofItems check (i + 1) rest

/-- The violations of members, by a check of one value. -/
def ofMembers (check : Json → List Violation) (members : List (String × Json)) : List Violation :=
  members.flatMap fun m => (check m.2).map (Violation.under (.member m.1))

/-- The members that are neither named nor matched by a pattern. -/
def othersOf (named : List String) (patterns : List (String × Text.Pattern))
    (members : List (String × Json)) : List (String × Json) :=
  members.filter fun m => !(m.1 ∈ named) && !(patterns.any fun p => p.2.isFoundIn m.1)

/-- The violation of a record that holds members which it may not hold. -/
def surplus (fitsKind : Bool) (patterns : List (String × Text.Pattern)) (names : List String) :
    List Violation :=
  let names := names.mergeSort (· ≤ ·)
  demand fitsKind names.isEmpty <|
    if patterns.isEmpty then .surplus names
    else .unlike names ((patterns.map Prod.fst).mergeSort (· ≤ ·))

/-- The violation of a choice between schemas none of which a value keeps to. -/
def choice (fitsKind : Bool) (j : Json) (inside : List (List Violation)) : Violation :=
  Violation.ofChoice ⟨[], .fitsNone j, ⟨[], true, fitsKind⟩⟩ inside.flatten

/-- Whether a relation holds between two numbers; of other values nothing is demanded. -/
def numbersHold (relation : Decimal → Decimal → Bool) (a b : Json) : Bool :=
  match a.decimal?, b.decimal? with
  | some x, some y => relation x y
  | _, _ => true

mutual

/-- Where a value falls short of a demand; `fitsKind` tells whether it is of a kind that the schema
of the demand asks for. -/
def violationsOf (fitsKind : Bool) : Constraint → Json → List Violation
  | .kinds kinds, j => demand fitsKind (kinds.any fun k => j.isOf k) (.notOf j kinds)
  | .required names, .record members =>
    names.flatMap fun n => demand fitsKind (members.any fun m => m.1 = n) (.missing n)
  | .properties schemas, .record members => ofProperties schemas members
  | .matching schemas, .record members => ofMatching schemas members
  | .others named patterns schema, .record members =>
    ofMembers (fun j => violationsIn (kindsOf? schema) schema j) (othersOf named patterns members)
  | .noOthers named patterns, .record members =>
    surplus fitsKind patterns ((othersOf named patterns members).map Prod.fst)
  | .memberNames schema, .record members =>
    members.flatMap fun m => violationsIn (kindsOf? schema) schema (.text m.1)
  | .dependent names, .record members =>
    names.flatMap fun (n, needed) =>
      if members.any fun m => m.1 = n then
        needed.flatMap fun d => demand fitsKind (members.any fun m => m.1 = d) (.dependent d n)
      else []
  | .minMembers least, .record members =>
    demand fitsKind (least ≤ members.length) (.tooFewMembers (.record members) least)
  | .maxMembers most, .record members =>
    demand fitsKind (members.length ≤ most) (.tooManyMembers (.record members) most)
  | .items start schema, .list items =>
    ofItems (fun j => violationsIn (kindsOf? schema) schema j) start (items.drop start)
  | .noItems start, .list items =>
    let rest := items.drop start
    demand fitsKind rest.isEmpty
      (.tooManyItems (match rest with
        | [j] => j
        | rest => .list rest) start rest.length)
  | .firstItems schemas, .list items => ofFirst 0 schemas items
  | .holds schema, .list items =>
    demand fitsKind (items.any fun j => (violationsIn (kindsOf? schema) schema j).isEmpty)
      (.holdsNone (.list items))
  | .minItems least, .list items =>
    demand fitsKind (least ≤ items.length) (.tooSmall (.list items) least)
  | .maxItems most, .list items =>
    demand fitsKind (items.length ≤ most) (.tooLarge (.list items) most)
  | .distinct, .list items => demand fitsKind (Json.areDistinct items) (.repeated (.list items))
  | .constant value, j => demand fitsKind (j.same value) (.notConstant value)
  | .oneOf values, j => demand fitsKind (values.any fun v => j.same v) (.notOneOf j values)
  | .pattern source p, .text s => demand fitsKind (p.isFoundIn s) (.unmatched (.text s) source)
  | .minLength least, .text s => demand fitsKind (least ≤ s.length) (.tooSmall (.text s) least)
  | .maxLength most, .text s => demand fitsKind (s.length ≤ most) (.tooLarge (.text s) most)
  | .minimum least, j => demand fitsKind (numbersHold (· ≤ ·) least j) (.below j least)
  | .maximum most, j => demand fitsKind (numbersHold (· ≤ ·) j most) (.above j most)
  | .moreThan least, j =>
    demand fitsKind (numbersHold (fun a b => !(b ≤ a)) least j) (.notAbove j least)
  | .lessThan most, j =>
    demand fitsKind (numbersHold (fun a b => !(b ≤ a)) j most) (.notBelow j most)
  | .multiple unit, j => demand fitsKind (j.isMultipleOf unit) (.notMultiple j unit)
  | .all schemas, j => (ofEach schemas j).flatten
  | .any schemas, j =>
    let inside := ofEach schemas j
    if inside.any List.isEmpty then [] else [choice fitsKind j inside]
  | .exactlyOne schemas, j =>
    let inside := ofEachSource schemas j
    match (inside.filter fun s => s.2.isEmpty).map Prod.fst with
    | [] => [choice fitsKind j (inside.map Prod.snd)]
    | [_] => []
    | first :: more => [⟨[], .fitsSeveral j (more ++ [first]), ⟨[], true, fitsKind⟩⟩]
  | .no source schema, j =>
    demand fitsKind (!(violationsIn (kindsOf? schema) schema j).isEmpty) (.fits j source)
  | .whether condition yes no, j =>
    if (violationsIn (kindsOf? condition) condition j).isEmpty then
      violationsIn (kindsOf? yes) yes j
    else violationsIn (kindsOf? no) no j
  | .never, j => demand false false (.never j)
  | _, _ => []

/-- Where a value falls short of demands of a schema that asks for some kinds. -/
def violationsIn (kinds : Option (List ValueKind)) : List Constraint → Json → List Violation
  | [], _ => []
  | c :: rest, j => violationsOf (fitsKinds kinds j) c j ++ violationsIn kinds rest j

/-- Where the members of a record fall short of the schemas for them. -/
def ofProperties : List (String × List Constraint) → List (String × Json) → List Violation
  | [], _ => []
  | (name, schema) :: rest, members =>
    (match members.lookup name with
    | some j => (violationsIn (kindsOf? schema) schema j).map (Violation.under (.member name))
    | none => []) ++ ofProperties rest members

/-- Where the members of a record fall short of the schemas for names like theirs. -/
def ofMatching : List (Text.Pattern × List Constraint) → List (String × Json) → List Violation
  | [], _ => []
  | (p, schema) :: rest, members =>
    ofMembers (fun j => violationsIn (kindsOf? schema) schema j)
      (members.filter fun m => p.isFoundIn m.1) ++ ofMatching rest members

/-- Where the first items of a list fall short of the schemas for them, from a position on. -/
def ofFirst (i : Nat) : List (List Constraint) → List Json → List Violation
  | [], _ => []
  | _ :: _, [] => []
  | schema :: schemas, j :: rest =>
    (violationsIn (kindsOf? schema) schema j).map (Violation.under (.item i)) ++
      ofFirst (i + 1) schemas rest

/-- Where a value falls short of each of some schemas. -/
def ofEach : List (List Constraint) → Json → List (List Violation)
  | [], _ => []
  | schema :: rest, j => violationsIn (kindsOf? schema) schema j :: ofEach rest j

/-- Where a value falls short of each of some schemas, with the documents of these. -/
def ofEachSource : List (Json × List Constraint) → Json → List (Json × List Violation)
  | [], _ => []
  | (source, schema) :: rest, j =>
    (source, violationsIn (kindsOf? schema) schema j) :: ofEachSource rest j

end

/-- Where a value falls short of a schema. -/
def violations (schema : Schema) (j : Json) : List Violation :=
  violationsIn (kindsOf? schema) schema j

/-- The violation that is reported. -/
def violation? (schema : Schema) (j : Json) : Option Violation :=
  Violation.reported? (violations schema j)

end Schema

end Inspection
