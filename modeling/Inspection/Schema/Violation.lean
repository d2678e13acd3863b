import Inspection.Document.Problem
import Inspection.Schema.Kind

/-!
# Violations of schemas

Where and how a document falls short of a schema. Of several violations the one nearest to the root
is reported; of those the one whose path is the last in the order of paths, then one that is no
choice between schemas, then one whose value is not even of the kind asked for, and of equals the
first in the order of the schema. A choice between schemas is reported by the violation of one of
them that lies deepest, unless several lie equally deep.
-/

namespace Inspection

/-- How a value falls short of a demand. -/
inductive Shortfall
  | notOf (value : Json) (kinds : List ValueKind)
  | missing (name : String)
  | notOneOf (value : Json) (values : List Json)
  | notConstant (value : Json)
  | unmatched (value : Json) (source : String)
  | tooSmall (value : Json) (least : Nat)
  | tooLarge (value : Json) (most : Nat)
  | tooFewMembers (value : Json) (least : Nat)
  | tooManyMembers (value : Json) (most : Nat)
  | below (value least : Json)
  | above (value most : Json)
  | notAbove (value least : Json)
  | notBelow (value most : Json)
  | notMultiple (value unit : Json)
  | repeated (value : Json)
  | surplus (names : List String)
  | unlike (names sources : List String)
  | dependent (name on : String)
  | fitsNone (value : Json)
  | fitsSeveral (value : Json) (schemas : List Json)
  | fits (value schema : Json)
  | holdsNone (value : Json)
  | tooManyItems (rest : Json) (most : Nat) (found : Nat)
  | never (value : Json)

/-- Values in the notation of messages, parted by commas. -/
def shownAll (values : List Json) : String :=
  String.intercalate ", " (values.map Json.shown)

/-- The shortfall in words. -/
def Shortfall.message : Shortfall → String
  | notOf value kinds =>
    value.shown ++ " is not of type " ++ shownAll (kinds.map fun k => .text k.label)
  | missing name => Text.quoted name ++ " is a required property"
  | notOneOf value values => value.shown ++ " is not one of " ++ (Json.list values).shown
  | notConstant value => value.shown ++ " was expected"
  | unmatched value source => value.shown ++ " does not match " ++ Text.quoted source
  | tooSmall value least =>
    value.shown ++ (if least = 1 then " should be non-empty" else " is too short")
  | tooLarge value most =>
    value.shown ++ (if most = 0 then " is expected to be empty" else " is too long")
  | tooFewMembers value least =>
    value.shown ++
      (if least = 1 then " should be non-empty" else " does not have enough properties")
  | tooManyMembers value most =>
    value.shown ++ (if most = 0 then " is expected to be empty" else " has too many properties")
  | below value least => value.shown ++ " is less than the minimum of " ++ least.shown
  | above value most => value.shown ++ " is greater than the maximum of " ++ most.shown
  | notAbove value least =>
    value.shown ++ " is less than or equal to the minimum of " ++ least.shown
  | notBelow value most =>
    value.shown ++ " is greater than or equal to the maximum of " ++ most.shown
  | notMultiple value unit => value.shown ++ " is not a multiple of " ++ unit.shown
  | repeated value => value.shown ++ " has non-unique elements"
  | surplus names =>
    "Additional properties are not allowed (" ++ shownAll (names.map .text) ++
      (if names.length = 1 then " was" else " were") ++ " unexpected)"
  | unlike names sources =>
    shownAll (names.map .text) ++ (if names.length = 1 then " does" else " do") ++
      " not match any of the regexes: " ++ shownAll (sources.map .text)
  | dependent name on => Text.quoted name ++ " is a dependency of " ++ Text.quoted on
  | fitsNone value => value.shown ++ " is not valid under any of the given schemas"
  | fitsSeveral value schemas => value.shown ++ " is valid under each of " ++ shownAll schemas
  | fits value schema => value.shown ++ " should not be valid under " ++ schema.shown
  | holdsNone value => value.shown ++ " does not contain items matching the given schema"
  | tooManyItems rest most found =>
    "Expected at most " ++ toString most ++ (if most = 1 then " item" else " items") ++
      " but found " ++ toString found ++ " extra: " ++ rest.shown
  | never value => "False schema does not allow " ++ value.shown

/-- Whether one path comes before another: by the first step that differs, items by position and
members by name. -/
def pathBefore : List Step → List Step → Bool
  | [], [] => false
  | [], _ :: _ => true
  | _ :: _, [] => false
  | a :: as, b :: bs => if a = b then pathBefore as bs else stepBefore a b
where
  /-- Whether one step comes before another. The steps down from one value are of one kind. -/
  stepBefore : Step → Step → Bool
    | .item i, .item k => i < k
    | .member m, .member n => m < n
    | .item _, .member _ => true
    | .member _, .item _ => false

/-- How much a violation tells: where it is, whether it is a choice between schemas, and whether its
value is of the kind that its schema asks for. -/
structure Rank where
  place : List Step
  isChoice : Bool
  fitsKind : Bool
deriving DecidableEq

/-- Whether a violation of one rank tells less than one of another. -/
def Rank.less (a b : Rank) : Bool :=
  if a.place.length ≠ b.place.length then b.place.length < a.place.length
  else if a.place ≠ b.place then pathBefore a.place b.place
  else if a.isChoice ≠ b.isChoice then a.isChoice
  else a.fitsKind && !b.fitsKind

/-- A shortfall and where it is. -/
structure Violation where
  path : List Step
  shortfall : Shortfall
  rank : Rank

namespace Violation

/-- The violation seen from one step further up. -/
def under (step : Step) (v : Violation) : Violation :=
  { v with path := step :: v.path, rank := { v.rank with place := step :: v.rank.place } }

/-- The violation in words, after its place. -/
def text (v : Violation) : String :=
  (if v.path.isEmpty then "<root>" else String.intercalate "/" (v.path.map Step.text)) ++ ": " ++
    v.shortfall.message

/-- Of two violations the one that tells more, of equals the first. -/
def foremost (a b : Violation) : Violation :=
  if a.rank.less b.rank then b else a

/-- Of two violations the one that tells less, of equals the first. -/
def hindmost (a b : Violation) : Violation :=
  if b.rank.less a.rank then b else a

/-- The violation that is reported. -/
def reported? : List Violation → Option Violation
  | [] => none
  | v :: rest => some (rest.foldl foremost v)

/-- The violation of a choice between schemas, with the violations of these: the one that tells
least of them speaks for it, if there is only one such. -/
def ofChoice (v : Violation) (inside : List Violation) : Violation :=
  match inside with
  | [] => v
  | first :: rest =>
    let least := rest.foldl hindmost first
    if 1 < inside.countP fun w => w.rank = least.rank then v
    else { v with path := least.path, shortfall := least.shortfall }

end Violation

end Inspection
