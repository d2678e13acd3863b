import Inspection.Decimal.Format
import Inspection.Table
import Inspection.Text.Quoted

/-!
# JSON values

Documents: integers of any size and doubles are told apart, and the members of a record keep their
order. A value can be shown in the notation that messages use.
-/

namespace Inspection

/-- A JSON value. -/
inductive Json
  | null
  | bool (b : Bool)
  | int (n : Int)
  | float (x : Float)
  | text (s : String)
  | list (items : List Json)
  | record (members : List (String × Json))
deriving Inhabited

namespace Json

/-- The value of a member of a record. -/
def get? : Json → String → Option Json
  | record members, key => members.lookup key
  | _, _ => none

/-- Whether the value counts as present: not null, false, zero or empty. -/
def isPresent : Json → Bool
  | null => false
  | bool b => b
  | int n => n ≠ 0
  | float x => x != 0.0
  | text s => s ≠ ""
  | list items => !items.isEmpty
  | record members => !members.isEmpty

/-- Whether the value has no parts; only such a value can be looked up as a name. -/
def isSimple : Json → Bool
  | list _ | record _ => false
  | _ => true

/-- An optional text as a value. -/
def ofText? : Option String → Json
  | some s => text s
  | none => null

/-- An optional double as a value. -/
def ofFloat? : Option Float → Json
  | some x => float x
  | none => null

/-- An optional boolean as a value. -/
def ofBool? : Option Bool → Json
  | some b => bool b
  | none => null

/-- A list of texts as a value. -/
def texts (ss : List String) : Json :=
  list (ss.map text)

mutual

/-- The value in the notation of messages. -/
def shown : Json → String
  | null => "None"
  | bool b => if b then "True" else "False"
  | int n => toString n
  | float x => NumberFormat.plain.write x
  | text s => Text.quoted s
  | list items => "[" ++ shownItems items ++ "]"
  | record members => "\x7b" ++ shownMembers members ++ "\x7d"

/-- The items of a list, parted by commas. -/
def shownItems : List Json → String
  | [] => ""
  | [item] => shown item
  | item :: rest => shown item ++ ", " ++ shownItems rest

/-- The members of a record, parted by commas. -/
def shownMembers : List (String × Json) → String
  | [] => ""
  | [(k, v)] => Text.quoted k ++ ": " ++ shown v
  | (k, v) :: rest => Text.quoted k ++ ": " ++ shown v ++ ", " ++ shownMembers rest

end

/-- The value inside a message: as `shown`, a text without its quotes. -/
def display : Json → String
  | text s => s
  | j => shown j

end Json

end Inspection
