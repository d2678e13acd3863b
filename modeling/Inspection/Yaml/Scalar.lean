import Inspection.Decimal.Reader
import Inspection.Json.Reader
import Inspection.Timestamp
import Inspection.Yaml.Problem

/-!
# Scalars of YAML texts

What kind of value a plain scalar looks like, and the value that a scalar of a kind stands for.
-/

namespace Inspection.Yaml

/-- The scalars that stand for nothing. -/
def nullWords : List String := ["", "~", "null", "Null", "NULL"]

/-- The scalars that stand for truth. -/
def trueWords : List String :=
  ["yes", "Yes", "YES", "true", "True", "TRUE", "on", "On", "ON"]

/-- The scalars that stand for falsehood. -/
def falseWords : List String :=
  ["no", "No", "NO", "false", "False", "FALSE", "off", "Off", "OFF"]

/-- The scalars that stand for infinity, without a sign. -/
def infinityWords : List (List Char) := [".inf", ".Inf", ".INF"].map String.toList

/-- The scalars that stand for what is no number. -/
def nanWords : List (List Char) := [".nan", ".NaN", ".NAN"].map String.toList

/-- What a plain scalar looks like. -/
inductive ScalarKind
  | null
  | boolean
  | integer
  | number
  | date
  | merge
  | default
  | text
deriving Repr, DecidableEq

/-- Whether a character is a digit or an underscore. -/
def isDigitOrLine (c : Char) : Bool :=
  c.isDigit || c = '_'

/-- A text at a separator: the parts between. -/
def partsAt (separator : Char) : List Char → List (List Char)
  | [] => [[]]
  | c :: cs =>
    if c = separator then [] :: partsAt separator cs
    else match partsAt separator cs with
      | part :: parts => (c :: part) :: parts
      | [] => [[c]]

/-- Whether the text is a number below sixty in at most two digits. -/
def isSixtieth : List Char → Bool
  | [b] => b.isDigit
  | [a, b] => '0' ≤ a && a ≤ '5' && b.isDigit
  | _ => false

/-- Whether digits and underscores follow a digit, all from the given class. -/
def startsWithDigit (cs : List Char) : Bool :=
  match cs with
  | c :: cs => c.isDigit && cs.all isDigitOrLine
  | [] => false

/-- Whether a plain scalar looks like an integer: in base two, eight, ten, sixteen or sixty. -/
def looksInteger (cs : List Char) : Bool :=
  let digits (ok : Char → Bool) (ds : List Char) : Bool :=
    !ds.isEmpty && ds.all fun c => ok c || c = '_'
  match (Decimal.signPart cs).2 with
  | '0' :: 'b' :: ds => digits (fun c => c = '0' || c = '1') ds
  | '0' :: 'x' :: ds => digits (fun c => (Json.hexValue? c).isSome) ds
  | ['0'] => true
  | '0' :: ds => digits (fun c => '0' ≤ c && c ≤ '7') ds
  | body =>
    match partsAt ':' body with
    | whole :: sixtieths => startsWithDigit whole && sixtieths.all isSixtieth
    | [] => false

/-- Whether the text is empty or an exponent, which has to have a sign. -/
def isExponent : List Char → Bool
  | [] => true
  | e :: sign :: ds =>
    (e = 'e' || e = 'E') && (sign = '+' || sign = '-') && !ds.isEmpty && ds.all Char.isDigit
  | _ => false

/-- Whether a plain scalar looks like a number with a point, the name of an infinity or of no
number. -/
def looksNumber (cs : List Char) : Bool :=
  let body := (Decimal.signPart cs).2
  let whole := body.takeWhile (· ≠ '.')
  nanWords.contains cs || infinityWords.contains body ||
    match body.dropWhile (· ≠ '.') with
    | '.' :: rest =>
      let fraction := rest.takeWhile isDigitOrLine
      let after := rest.dropWhile isDigitOrLine
      if whole.isEmpty then body.length = cs.length && startsWithDigit fraction && isExponent after
      else
        match partsAt ':' whole with
        | [w] => startsWithDigit w && isExponent after
        | w :: sixtieths => startsWithDigit w && sixtieths.all isSixtieth && after.isEmpty
        | [] => false
    | _ => false

/-- The parts of a date: the day, and the time of day if there is one. -/
structure DateParts where
  year : Nat
  month : Nat
  day : Nat
  time : Option (Nat × Nat × Nat)

/-- One or two digits at the start of a text, and the text after them. -/
def oneOrTwoDigits? : List Char → Option (List Char × List Char)
  | a :: b :: cs =>
    if a.isDigit && b.isDigit then some ([a, b], cs)
    else if a.isDigit then some ([a], b :: cs)
    else none
  | [a] => if a.isDigit then some ([a], []) else none
  | [] => none

/-- Whether the text is empty, or a zone: `Z`, or a difference of hours and minutes. -/
def isZone (cs : List Char) : Bool :=
  let gap (c : Char) : Bool := c = ' ' || c = '\t'
  cs.isEmpty ||
    match cs.dropWhile gap with
    | ['Z'] => true
    | sign :: rest =>
      (sign = '+' || sign = '-') &&
        match oneOrTwoDigits? rest with
        | some (_, []) => true
        | some (_, [':', a, b]) => a.isDigit && b.isDigit
        | _ => false
    | [] => false

/-- The hours, minutes and seconds that a text writes after the day. -/
def timeOf? (cs : List Char) : Option (Nat × Nat × Nat) := do
  let gap (c : Char) : Bool := c = ' ' || c = '\t'
  let rest ← match cs with
    | 'T' :: rest => some rest
    | 't' :: rest => some rest
    | c :: rest => if gap c then some (rest.dropWhile gap) else none
    | [] => none
  let (hour, rest) ← oneOrTwoDigits? rest
  match rest with
  | ':' :: a :: b :: ':' :: c :: d :: rest =>
    let rest := match rest with
      | '.' :: rest => rest.dropWhile Char.isDigit
      | rest => rest
    if [a, b, c, d].all Char.isDigit && isZone rest then
      some (Decimal.ofDigits hour, Decimal.ofDigits [a, b], Decimal.ofDigits [c, d])
    else none
  | _ => none

/-- The parts of a date that a text writes. The month and the day of a date alone have two
digits. -/
def dateOf? (cs : List Char) : Option DateParts :=
  match cs with
  | a :: b :: c :: d :: '-' :: rest => do
    if [a, b, c, d].any fun c => !c.isDigit then none
    else
      let (month, rest) ← oneOrTwoDigits? rest
      match rest with
      | '-' :: rest =>
        let (day, rest) ← oneOrTwoDigits? rest
        let date (time : Option (Nat × Nat × Nat)) : DateParts :=
          ⟨Decimal.ofDigits [a, b, c, d], Decimal.ofDigits month, Decimal.ofDigits day, time⟩
        if rest.isEmpty then if month.length = 2 ∧ day.length = 2 then some (date none) else none
        else (timeOf? rest).map fun t => date (some t)
      | _ => none
  | _ => none

/-- What a plain scalar looks like. -/
def kindOf (s : String) : ScalarKind :=
  if s ∈ nullWords then .null
  else if s ∈ trueWords ∨ s ∈ falseWords then .boolean
  else if looksNumber s.toList then .number
  else if looksInteger s.toList then .integer
  else if s = "<<" then .merge
  else if (dateOf? s.toList).isSome then .date
  else if s = "=" then .default
  else .text

/-- The integer that digits of a base write. -/
def integerIn (base : Nat) (cs : List Char) : Except Problem Nat :=
  let problem := Problem.scalar (.notInteger base (String.ofList cs))
  if cs.isEmpty then .error problem
  else if base = 10 ∧ Decimal.maxIntegerDigits < cs.length then .error (.scalar (.digits cs.length))
  else
    match cs.foldlM (fun n c => do
        let d ← Json.hexValue? c
        if d < base then some (n * base + d) else none) 0 with
    | some n => .ok n
    | none => .error problem

/-- The number of parts in base sixty. -/
def inSixties (parts : List Nat) : Nat :=
  parts.foldl (fun n d => n * 60 + d) 0

/-- The integer that a scalar stands for. -/
def integerOf (s : String) : Except Problem Int := do
  let cs := s.toList.filter (· ≠ '_')
  let (negative, body) := Decimal.signPart cs
  let n ← match body with
    | [] => Except.error .emptyNumber
    | ['0'] => pure 0
    | '0' :: 'b' :: ds => integerIn 2 ds
    | '0' :: 'x' :: ds => integerIn 16 ds
    | '0' :: _ => integerIn 8 body
    | _ =>
      if body.contains ':' then inSixties <$> (partsAt ':' body).mapM (integerIn 10)
      else integerIn 10 body
  return if negative then -(n : Int) else n

/-- The double that a text writes. -/
def floatIn (cs : List Char) : Except Problem Float :=
  match Decimal.floatOfText? (String.ofList cs) with
  | some x => .ok x
  | none => .error (.scalar (.notNumber (String.ofList cs)))

/-- The number of parts in base sixty, from the last part on; the parts before weigh `weight` and
its multiples. -/
def floatInSixties (sum weight : Float) : List Float → Float
  | [] => sum
  | x :: before => floatInSixties (sum + x * weight) (weight * 60.0) before

/-- The number that a scalar stands for. -/
def numberOf (s : String) : Except Problem Float := do
  let cs := (s.toList.filter (· ≠ '_')).map Char.toLower
  let (negative, body) := Decimal.signPart cs
  let x ← if body = ".inf".toList then pure (1.0 / 0.0)
    else if body = ".nan".toList then pure (0.0 / 0.0)
    else if body.isEmpty then Except.error .emptyNumber
    else if body.contains ':' then
      (fun xs => floatInSixties 0.0 1.0 xs.reverse) <$> (partsAt ':' body).mapM floatIn
    else floatIn body
  return if negative then -x else x

/-- Whether the scalar is a date of the calendar. -/
def checkDate (s : String) : Except Problem Unit :=
  match dateOf? s.toList with
  | none => .error .notDate
  | some d =>
    let (hour, minute, second) := d.time.getD (0, 0, 0)
    if d.year = 0 then .error (.scalar (.yearOutOfRange d.year))
    else if d.month = 0 ∨ 12 < d.month then .error (.scalar .monthOutOfRange)
    else if d.day = 0 ∨ Calendar.daysOf d.year d.month < d.day then .error (.scalar .dayOutOfRange)
    else if 23 < hour then .error (.scalar .hourOutOfRange)
    else if 59 < minute then .error (.scalar .minuteOutOfRange)
    else if 59 < second then .error (.scalar .secondOutOfRange)
    else .ok ()

/-- The value of a scalar of a kind. A date is no value of a document: it is shown as a list of its
text, which stands where a text or a number should be as wrongly as a date does. -/
def valueOf (kind : ScalarKind) (s : String) : Except Problem Json :=
  match kind with
  | .null => .ok .null
  | .boolean =>
    let word := s.toLower
    if word ∈ trueWords then .ok (.bool true)
    else if word ∈ falseWords then .ok (.bool false)
    else .error .notBoolean
  | .integer => Json.int <$> integerOf s
  | .number => Json.float <$> numberOf s
  | .date => (fun _ => Json.texts [s]) <$> checkDate s
  | .merge | .default => .error .kind
  | .text => .ok (.text s)

end Inspection.Yaml
