import Inspection.Json.Reader

/-!
# Problems of YAML texts

Why a text is no document: its characters, its marks, the order of these, its references, or what
its scalars should stand for.
-/

namespace Inspection.Yaml

/-- A scalar that does not stand for a value of its kind. -/
inductive ScalarProblem
  | notInteger (base : Nat) (text : String)
  /-- An integer has more digits than are read. -/
  | digits (count : Nat)
  | notNumber (text : String)
  | yearOutOfRange (year : Nat)
  | monthOutOfRange
  | dayOutOfRange
  | hourOutOfRange
  | minuteOutOfRange
  | secondOutOfRange
  | characterOutOfRange
deriving Repr, DecidableEq

/-- The problem in words. -/
def ScalarProblem.message : ScalarProblem → String
  | notInteger base text =>
    "invalid literal for int() with base " ++ toString base ++ ": " ++ Text.quoted text
  | digits count => Json.digitsMessage count
  | notNumber text => "could not convert string to float: " ++ Text.quoted text
  | yearOutOfRange year => "year " ++ toString year ++ " is out of range"
  | monthOutOfRange => "month must be in 1..12"
  | dayOutOfRange => "day is out of range for month"
  | hourOutOfRange => "hour must be in 0..23"
  | minuteOutOfRange => "minute must be in 0..59"
  | secondOutOfRange => "second must be in 0..59"
  | characterOutOfRange => "chr() arg not in range(0x110000)"

/-- Why a text is no document. -/
inductive Problem
  /-- A character that no document may hold. -/
  | character
  /-- Characters that make up no mark and no scalar where they stand. -/
  | mark
  /-- Marks and scalars in an order in which they make up no value. -/
  | order
  /-- A name without a value, a name given twice, or a second document. -/
  | reference
  /-- A value that is not of the kind that its tag or its place asks for. -/
  | kind
  | scalar (p : ScalarProblem)
  /-- A number without digits. -/
  | emptyNumber
  /-- A truth value that is none of the words for truth values. -/
  | notBoolean
  /-- A date that has no parts of a date. -/
  | notDate
deriving Repr, DecidableEq

end Inspection.Yaml
