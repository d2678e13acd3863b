import Inspection.Decimal.Reader
import Inspection.Json.Basic

/-!
# Kinds of values

The kinds of values that schemas tell apart, and when two values count as equal.
-/

namespace Inspection

/-- The kinds of values that a schema tells apart. -/
inductive ValueKind
  | null
  | boolean
  | integer
  | number
  | text
  | list
  | record
deriving Repr, DecidableEq

/-- The name of a kind in schemas. -/
def ValueKind.label : ValueKind → String
  | null => "null"
  | boolean => "boolean"
  | integer => "integer"
  | number => "number"
  | text => "string"
  | list => "array"
  | record => "object"

/-- The kind of a name. -/
def ValueKind.ofLabel? (s : String) : Option ValueKind :=
  [null, boolean, integer, number, text, list, record].find? fun k => k.label = s

namespace Json

/-- The exact value of a finite number. -/
def decimal? : Json → Option Decimal
  | int n => some ⟨n, 0⟩
  | float x =>
    if x.isNaN || x.isInf then none
    else
      let b := Binary.ofFloat x
      some (if b.negative then -b.toDecimal else b.toDecimal)
  | _ => none

/-- Whether the value is of a kind. A number without a fraction is an integer. -/
def isOf : Json → ValueKind → Bool
  | null, .null => true
  | bool _, .boolean => true
  | int _, .integer => true
  | int _, .number => true
  | float _, .number => true
  | float x, .integer =>
    let b := Binary.ofFloat x
    !x.isNaN && !x.isInf && b.numerator % b.denominator = 0
  | text _, .text => true
  | list _, .list => true
  | record _, .record => true
  | _, _ => false

mutual

/-- Whether two values are equal: numbers by value, records whatever the order of their members. -/
def same : Json → Json → Bool
  | null, null => true
  | bool a, bool b => a = b
  | text a, text b => a = b
  | list as, list bs => sameItems as bs
  | record as, record bs => as.length = bs.length && sameMembers as bs
  | a, b =>
    match a.decimal?, b.decimal? with
    | some x, some y => x ≤ y && y ≤ x
    | _, _ => false

/-- Whether two lists hold equal values. -/
def sameItems : List Json → List Json → Bool
  | [], [] => true
  | a :: as, b :: bs => same a b && sameItems as bs
  | _, _ => false

/-- Whether each member has an equal one among others. -/
def sameMembers : List (String × Json) → List (String × Json) → Bool
  | [], _ => true
  | (k, a) :: as, bs =>
    (match bs.lookup k with
    | some b => same a b
    | none => false) && sameMembers as bs

end

/-- Whether no two values of a list are equal. -/
def areDistinct : List Json → Bool
  | [] => true
  | j :: rest => !(rest.any fun k => j.same k) && areDistinct rest

/-- The double of a number. -/
def double? : Json → Option Float
  | int n => Decimal.floatOfInt? n
  | float x => some x
  | _ => none

/-- Whether a number is a multiple of another one: of an integer exactly, of a double as far as
division tells. -/
def isMultipleOf (j unit : Json) : Bool :=
  match unit with
  | float u =>
    match j.double? with
    | some x => (float (x / u)).isOf .integer
    | none => true
  | unit =>
    match j.decimal?, unit.decimal? with
    | some x, some u =>
      let e := Decimal.commonExponent x u
      x.mantissaAt e % u.mantissaAt e = 0
    | _, _ => true

end Json

end Inspection
