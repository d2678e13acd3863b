import Inspection.Document.Writing

/-!
# Points in time

Seconds of the calendar in universal time, written as `2025-01-02T03:04:05Z`.
-/

namespace Inspection

namespace Calendar

/-- Whether a year has a leap day. -/
def isLeap (year : Nat) : Bool :=
  year % 4 = 0 && (year % 100 ≠ 0 || year % 400 = 0)

/-- The number of days of a month. -/
def daysOf (year month : Nat) : Nat :=
  if month = 2 then (if isLeap year then 29 else 28)
  else if month ∈ [4, 6, 9, 11] then 30
  else 31

end Calendar

/-- A second in universal time. -/
structure Timestamp where
  year : Nat
  month : Nat
  day : Nat
  hour : Nat
  minute : Nat
  second : Nat
  inRange : (0 < year ∧ year < 10000) ∧ (0 < month ∧ month < 13) ∧
    (0 < day ∧ day ≤ Calendar.daysOf year month) ∧ hour < 24 ∧ minute < 60 ∧ second < 60 := by
    decide
deriving DecidableEq

namespace Timestamp

/-- A number with zeros before it. -/
def padded (width n : Nat) : List Char :=
  NumberFormat.padLeft width (Nat.toDigits 10 n)

/-- The day without marks: year, month and day in digits. -/
def dayText (t : Timestamp) : String :=
  String.ofList (padded 4 t.year ++ padded 2 t.month ++ padded 2 t.day)

/-- The point in time as text. -/
def text (t : Timestamp) : String :=
  String.ofList (padded 4 t.year ++ '-' :: padded 2 t.month ++ '-' :: padded 2 t.day ++
    'T' :: padded 2 t.hour ++ ':' :: padded 2 t.minute ++ ':' :: padded 2 t.second ++ ['Z'])

/-- The number that some digits write. -/
def digits? (cs : List Char) : Option Nat :=
  if cs.all Char.isDigit then some (Decimal.ofDigits cs) else none

/-- The point in time of its parts, if they are in range. -/
def ofParts? (year month day hour minute second : Nat) : Option Timestamp :=
  if h : (0 < year ∧ year < 10000) ∧ (0 < month ∧ month < 13) ∧
      (0 < day ∧ day ≤ Calendar.daysOf year month) ∧ hour < 24 ∧ minute < 60 ∧ second < 60 then
    some ⟨year, month, day, hour, minute, second, h⟩
  else none

/-- The point in time that a text writes; the zone is a `Z` or a difference of zero. -/
def ofText? (s : String) : Option Timestamp :=
  match s.toList with
  | y1 :: y2 :: y3 :: y4 :: '-' :: m1 :: m2 :: '-' :: d1 :: d2 :: 'T' :: h1 :: h2 :: ':' ::
      n1 :: n2 :: ':' :: s1 :: s2 :: zone =>
    if zone = ['Z'] ∨ zone = "+00:00".toList then do
      ofParts? (← digits? [y1, y2, y3, y4]) (← digits? [m1, m2]) (← digits? [d1, d2])
        (← digits? [h1, h2]) (← digits? [n1, n2]) (← digits? [s1, s2])
    else none
  | _ => none

/-- Reads a point in time. -/
def read : Reader Timestamp
  | .text s =>
    match ofText? s with
    | some t => .found t
    | none => .refuse .notTime
  | _ => .refuse .notTime

/-- A point in time as a document. -/
def json (t : Timestamp) : Json :=
  .text t.text

end Timestamp

end Inspection
