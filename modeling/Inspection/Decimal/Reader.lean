import Inspection.Decimal.Shortest
import Inspection.Text.Blank

/-!
# Reading numbers

Decimal numbers in text: digits that single underscores may part, a point, an exponent, a sign, and
the names of infinities and NaN.
-/

namespace Inspection.Decimal

/-- The value of a digit character. -/
def digitValue (c : Char) : Nat :=
  c.toNat - '0'.toNat

/-- The number that decimal digits write. -/
def ofDigits (cs : List Char) : Nat :=
  cs.foldl (fun n c => n * 10 + digitValue c) 0

/-- The most digits of an integer that is read. -/
def maxIntegerDigits : Nat := 4300

/-- The leading digits, which single underscores may part, and the text after them. An underscore
that no digit follows is left. -/
def digitPart : List Char → List Char × List Char
  | [] => ([], [])
  | c :: '_' :: d :: cs =>
    if c.isDigit && d.isDigit then
      let (ds, after) := digitPart (d :: cs)
      (c :: ds, after)
    else if c.isDigit then ([c], '_' :: d :: cs)
    else ([], c :: '_' :: d :: cs)
  | c :: cs =>
    if c.isDigit then
      let (ds, after) := digitPart cs
      (c :: ds, after)
    else ([], c :: cs)

/-- A sign and the text after it; no sign counts as plus. -/
def signPart : List Char → Bool × List Char
  | '-' :: cs => (true, cs)
  | '+' :: cs => (false, cs)
  | cs => (false, cs)

/-- The exponent of a number: `e`, a sign, digits. Without digits nothing is read. -/
def exponentPart (cs : List Char) : Int × List Char :=
  match cs with
  | c :: rest =>
    if c = 'e' ∨ c = 'E' then
      let (negative, rest) := signPart rest
      match digitPart rest with
      | ([], _) => (0, cs)
      | (ds, rest) => (if negative then -(ofDigits ds : Int) else ofDigits ds, rest)
    else (0, cs)
  | [] => (0, [])

/-- An unsigned decimal number and the text after it: digits on at least one side of the point. -/
def readUnsigned (cs : List Char) : Option (Decimal × List Char) :=
  let (whole, rest) := digitPart cs
  let (fraction, rest) := match rest with
    | '.' :: rest => digitPart rest
    | rest => ([], rest)
  if whole.isEmpty && fraction.isEmpty then none
  else
    let (e, rest) := exponentPart rest
    some (⟨ofDigits (whole ++ fraction), e - fraction.length⟩, rest)

/-- A text in lower case, ASCII letters only. -/
def lowered (cs : List Char) : String :=
  String.ofList (cs.map Char.toLower)

/-- The double that characters write: a signed number, or the name of an infinity or NaN in any
case. -/
def floatOf? (cs : List Char) : Option Float :=
  let (negative, cs) := signPart cs
  let magnitude? : Option Float :=
    if lowered cs = "inf" ∨ lowered cs = "infinity" then some (1.0 / 0.0)
    else if lowered cs = "nan" then some (0.0 / 0.0)
    else match readUnsigned cs with
      | some (d, []) => some d.toFloat
      | _ => none
  magnitude?.map fun x => if negative then -x else x

/-- The double that a whole text writes, with spaces around it. Single underscores may part
digits. -/
def floatOfText? (s : String) : Option Float :=
  floatOf? (Text.trimSpaces s.toList)

/-- Whether two underscores stand side by side. -/
def hasDoubleUnderscore : List Char → Bool
  | '_' :: '_' :: _ => true
  | _ :: cs => hasDoubleUnderscore cs
  | [] => false

/-- The characters without their underscores, which may stand singly anywhere but at the ends. -/
def withoutUnderscores? (cs : List Char) : Option (List Char) :=
  if cs.head? = some '_' ∨ cs.getLast? = some '_' ∨ hasDoubleUnderscore cs then none
  else some (cs.filter (· ≠ '_'))

/-- The double that a text in a document writes: with spaces around it, or else with underscores
anywhere but at the ends. -/
def floatOfLenientText? (s : String) : Option Float :=
  let plain (cs : List Char) : Option Float := if cs.contains '_' then none else floatOf? cs
  plain (Text.trimSpaces s.toList) <|> (withoutUnderscores? s.toList).bind plain

/-- The integer that a sign and digits write, and the text after it. -/
def wholePart? (cs : List Char) : Option (Int × List Char) :=
  let (negative, cs) := signPart cs
  match digitPart cs with
  | ([], _) => none
  | (ds, rest) => some (if negative then -(ofDigits ds : Int) else ofDigits ds, rest)

/-- The integer that a whole text writes: a sign and digits, with spaces around it. -/
def wholeOfText? (s : String) : Option Int :=
  match wholePart? (Text.trimSpaces s.toList) with
  | some (n, []) => some n
  | _ => none

/-- What is left of digits after leading zeros, and underscores between these. Of zeros alone the
last character stays, and so does the one before a point. -/
def afterZeros (last : Char) : List Char → Option (List Char)
  | [] => some [last]
  | c :: cs =>
    if c = '0' ∨ c = '_' then afterZeros c cs
    else if c.isDigit then some (c :: cs)
    else if c = '.' then some (last :: c :: cs)
    else none

/-- A text without the zeros that it starts with; a minus sign keeps them. -/
def withoutZeros? : List Char → Option (List Char)
  | '-' :: cs => some ('-' :: cs)
  | '0' :: cs => afterZeros '0' cs
  | c :: cs => if c.isDigit then some (c :: cs) else none
  | [] => none

/-- The characters before a point that only zeros follow, at least one. -/
def withoutFraction? (cs : List Char) : Option (List Char) :=
  match cs.dropWhile (· ≠ '.') with
  | [] => some cs
  | _ :: [] => none
  | _ :: zeros => if zeros.all (· = '0') then some (cs.takeWhile (· ≠ '.')) else none

/-- The sign and the digits of the integer that a text in a document writes: with spaces around it,
a point if only zeros follow, underscores anywhere but at the ends, and no zeros right after a minus
sign. -/
def integerDigits? (s : String) : Option (Bool × List Char) := do
  let cs := Text.trimSpaces s.toList
  let unsigned := match cs with
    | '+' :: '-' :: _ => []
    | '+' :: cs => cs
    | cs => cs
  let whole ← withoutUnderscores? (← withoutFraction? (← withoutZeros? unsigned))
  let (negative, digits) := match whole with
    | '-' :: ds => (true, ds)
    | ds => (false, ds)
  if digits.isEmpty || !digits.all Char.isDigit then none
  else if digits.head? = some '0' ∧ 1 < digits.length then none
  else some (negative, digits)

/-- The double nearest to an integer, unless it lies beyond the greatest double. -/
def floatOfInt? (n : Int) : Option Float :=
  let x := toFloat ⟨n, 0⟩
  if x.isInf then none else some x

end Inspection.Decimal
