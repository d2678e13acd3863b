import Inspection.Document.Problem
import Inspection.Decimal.Reader
import Inspection.Json.Basic

/-!
# Reading documents

A document is read part by part, and a bad part does not hide the others: every problem is found.
Reading is lenient where the intent is plain, as with a number in a text or a one for a truth value.
-/

namespace Inspection

-- powers of whole numbers are those of the core library, whatever else is in scope
attribute [local instance (high)] instPowNat

/-- What a part of a document holds, or all that is wrong with it. -/
inductive Reading (α : Type)
  | found (value : α)
  | refused (problems : List Problem)

namespace Reading

variable {α β : Type}

/-- Applies a function to what was found. -/
def map (f : α → β) : Reading α → Reading β
  | found a => found (f a)
  | refused ps => refused ps

/-- Two readings as one: the problems of both, first those of the first. -/
def both (f : Reading (α → β)) (a : Reading α) : Reading β :=
  match f, a with
  | found f, found a => found (f a)
  | found _, refused ps => refused ps
  | refused ps, found _ => refused ps
  | refused ps, refused qs => refused (ps ++ qs)

instance : Applicative Reading where
  pure := found
  map := map
  seq f a := both f (a ())

/-- A single problem at this place. -/
def refuse (m : Mismatch) : Reading α :=
  refused [⟨[], m⟩]

/-- The reading seen from one step further up. -/
def under (step : Step) : Reading α → Reading α
  | found a => found a
  | refused ps => refused (ps.map (Problem.under step))

/-- Goes on with what was found. -/
def andThen (a : Reading α) (f : α → Reading β) : Reading β :=
  match a with
  | found a => f a
  | refused ps => refused ps

@[simp] theorem map_found (f : α → β) (a : α) : f <$> (found a : Reading α) = found (f a) := rfl

@[simp] theorem found_seq_found (f : α → β) (a : α) :
    (found f <*> found a : Reading β) = found (f a) := rfl

@[simp] theorem under_found (step : Step) (a : α) : (found a).under step = found a := rfl

end Reading

/-- A way to read a part of a document. -/
abbrev Reader (α : Type) := Json → Reading α

/-- A number of things, at least one. -/
abbrev Count := { n : Nat // 0 < n }

/-- A closed choice between words. -/
class Keyword (α : Type) where
  /-- All values in the order in which messages list them. -/
  all : List α
  label : α → String

namespace Reader

open Reading

variable {α : Type}

/-- A text. -/
def text : Reader String
  | .text s => found s
  | _ => refuse .notText

/-- A number: also a truth value, and a text that writes one. -/
def number : Reader Float
  | .int n => match Decimal.floatOfInt? n with
    | some x => found x
    | none => refuse .notNumber
  | .float x => found x
  | .bool b => found (if b then 1.0 else 0.0)
  | .text s => match Decimal.floatOfLenientText? s with
    | some x => found x
    | none => refuse .unreadableNumber
  | _ => refuse .notNumber

/-- The integer that a double is, if it is one. -/
def whole? (x : Float) : Option Int :=
  let b := Binary.ofFloat x
  if x.isNaN || x.isInf || b.numerator % b.denominator ≠ 0 then none
  else
    let n := b.numerator / b.denominator
    some (if b.negative then -(n : Int) else n)

/-- An integer: also a truth value, a number without a fraction, and a text that writes one. -/
def integer : Reader Int
  | .int n => found n
  | .bool b => found (if b then 1 else 0)
  | .float x =>
    if x.isNaN || x.isInf then refuse .notFinite
    else match whole? x with
      | none => refuse .fraction
      | some n =>
        if -2 ^ (63 : Nat) < n ∧ n < 2 ^ (63 : Nat) then found n else refuse .beyondInteger
  | .text s => match Decimal.integerDigits? s with
    | some (negative, ds) =>
      if Decimal.maxIntegerDigits < ds.length then refuse .beyondInteger
      else
        let n : Int := Decimal.ofDigits ds
        found (if negative then -n else n)
    | none => refuse .unreadableInteger
  | _ => refuse .notInteger

/-- An integer that is at least one. -/
def count : Reader Count := fun j =>
  (integer j).andThen fun n =>
    if h : 0 < n.toNat then found ⟨n.toNat, h⟩ else refuse (.below 1)

/-- The texts that stand for truth. -/
def truths : List String := ["1", "true", "t", "yes", "y", "on"]

/-- The texts that stand for falsehood. -/
def falsehoods : List String := ["0", "false", "f", "no", "n", "off"]

/-- A truth value: also zero, one, and the words for them in any case. -/
def boolean : Reader Bool
  | .bool b => found b
  | .int n =>
    if n = 1 then found true
    else if n = 0 then found false
    else if -2 ^ (63 : Nat) ≤ n ∧ n < 2 ^ (63 : Nat) then refuse .unreadableBoolean
    else refuse .notBoolean
  | .float x =>
    if x == 1.0 then found true
    else if x == 0.0 then found false
    else match integer (.float x) with
      | found _ => refuse .unreadableBoolean
      | refused _ => refuse .notBoolean
  | .text s =>
    let word := Decimal.lowered s.toList
    if word ∈ truths then found true
    else if word ∈ falsehoods then found false
    else refuse .unreadableBoolean
  | _ => refuse .notBoolean

/-- One of a closed choice of words. -/
def keyword [Keyword α] : Reader α := fun j =>
  let refusal : Reading α := refuse (.notChoice ((Keyword.all (α := α)).map Keyword.label))
  match j with
  | .text s => match (Keyword.all (α := α)).find? fun a => Keyword.label a = s with
    | some a => found a
    | none => refusal
  | _ => refusal

/-- A part that may be null. -/
def nullable (r : Reader α) : Reader (Option α)
  | .null => found none
  | j => some <$> r j

/-- Any value. -/
def any : Reader Json := found

/-- The items of a list from a position on. -/
def itemsFrom (r : Reader α) : Nat → List Json → Reading (List α)
  | _, [] => found []
  | i, j :: rest => List.cons <$> (r j).under (.item i) <*> itemsFrom r (i + 1) rest

/-- A list. -/
def list (r : Reader α) : Reader (List α)
  | .list items => itemsFrom r 0 items
  | _ => refuse .notList

/-- Members of a record with their names. -/
def membersRead (r : Reader α) : List (String × Json) → Reading (List (String × α))
  | [] => found []
  | (name, j) :: rest =>
    List.cons <$> (Prod.mk name <$> (r j).under (.member name)) <*> membersRead r rest

/-- A record whose members are all of one kind. -/
def table (r : Reader α) : Reader (Table α)
  | .record members => Table.ofList <$> membersRead r members
  | _ => refuse .notRecord

/-- The members of a record that describes something of a kind. -/
def model (kind : String) (read : List (String × Json) → Reading α) : Reader α
  | .record members => read members
  | _ => refuse (.notModel kind)

/-- A member that must be there. -/
def required (name : String) (r : Reader α) (members : List (String × Json)) : Reading α :=
  match members.lookup name with
  | some j => (r j).under (.member name)
  | none => (refuse .missing).under (.member name)

/-- A member that may be left out. -/
def optional (name : String) (r : Reader α) (default : α) (members : List (String × Json)) :
    Reading α :=
  match members.lookup name with
  | some j => (r j).under (.member name)
  | none => found default

/-- A member that may be left out or null. -/
def absentable (name : String) (r : Reader α) (members : List (String × Json)) :
    Reading (Option α) :=
  optional name (nullable r) none members

end Reader

end Inspection
