import Inspection.Formula.Token
import Inspection.Decimal.Reader

/-!
# Written numbers

Numbers of an expression's text: decimal, hexadecimal, octal and binary integers, decimal fractions
with exponents, and imaginary numbers. Single underscores may part digits.
-/

namespace Inspection.Formula

/-- Whether an identifier might go on with the character, as far as its first look tells. -/
def looksLikeName (c : Char) : Bool :=
  c.isAlphanum || c == '_' || 128 ≤ c.toNat

/-- Words that may directly follow a number. -/
def wordsAfterNumber : List (List Char) :=
  ["and", "else", "for", "if", "in", "is", "or", "not"].map String.toList

/-- Whether a number may end before the text. -/
def endsNumber (cs : List Char) : Bool :=
  match cs with
  | c :: _ => !looksLikeName c || wordsAfterNumber.any fun w => w.isPrefixOf cs
  | [] => true

/-- The value of a digit in bases up to 16. -/
def digitOf (c : Char) : Nat :=
  if c.isDigit then c.toNat - '0'.toNat
  else if 'a' ≤ c ∧ c ≤ 'f' then c.toNat - 'a'.toNat + 10
  else if 'A' ≤ c ∧ c ≤ 'F' then c.toNat - 'A'.toNat + 10
  else 16

/-- The digits of a base, each of which an underscore may precede, and the text after them. -/
def baseDigits (base : Nat) : List Char → List Nat × List Char
  | '_' :: c :: cs =>
    if digitOf c < base then
      let (ds, rest) := baseDigits base cs
      (digitOf c :: ds, rest)
    else ([], '_' :: c :: cs)
  | c :: cs =>
    if digitOf c < base then
      let (ds, rest) := baseDigits base cs
      (digitOf c :: ds, rest)
    else ([], c :: cs)
  | [] => ([], [])

/-- The base that a letter after a zero announces. -/
def baseOf? (c : Char) : Option Nat :=
  if c = 'x' ∨ c = 'X' then some 16
  else if c = 'o' ∨ c = 'O' then some 8
  else if c = 'b' ∨ c = 'B' then some 2
  else none

/-- An exponent: its value, whether there is one, and the text after it. A sign without digits is no
number. -/
def readExponent (cs : List Char) : Option (Option Int × List Char) :=
  match cs with
  | c :: rest =>
    if c = 'e' ∨ c = 'E' then
      match rest, Decimal.digitPart (Decimal.signPart rest).2 with
      | '+' :: _, ([], _) => none
      | '-' :: _, ([], _) => none
      | _, ([], _) => some (none, cs)
      | _, (ds, after) =>
        let n : Int := Decimal.ofDigits ds
        some (some (if (Decimal.signPart rest).1 then -n else n), after)
    else some (none, cs)
  | [] => some (none, [])

/-- A decimal number whose text starts with a digit or a point. -/
def readDecimal (cs : List Char) : Option (Numeral × List Char) := do
  let (whole, rest) := Decimal.digitPart cs
  let (point, fraction, rest) := match rest with
    | '.' :: rest => (true, Decimal.digitPart rest)
    | rest => (false, [], rest)
  let (e?, rest) ← readExponent rest
  let value : Decimal := ⟨Decimal.ofDigits (whole ++ fraction), e?.getD 0 - fraction.length⟩
  match rest with
  | 'j' :: rest => if endsNumber rest then some (.imaginary value.toFloat, rest) else none
  | 'J' :: rest => if endsNumber rest then some (.imaginary value.toFloat, rest) else none
  | _ =>
    if !endsNumber rest then none
    else if point || e?.isSome then some (.real (.float value.toFloat), rest)
    else if whole.head? = some '0' then
      if whole.any (· ≠ '0') then none else some (.real (.integer 0), rest)
    else if Decimal.maxIntegerDigits < whole.length then none
    else some (.real (.integer (Decimal.ofDigits whole)), rest)

/-- A number at the start of the text, and the text after it. -/
def readNumeral (cs : List Char) : Option (Numeral × List Char) :=
  match cs with
  | '0' :: c :: rest =>
    match baseOf? c with
    | some base =>
      match baseDigits base rest with
      | ([], _) => none
      | (ds, rest) =>
        if endsNumber rest then
          some (.real (.integer (ds.foldl (fun n d => n * base + d) 0)), rest)
        else none
    | none => readDecimal cs
  | _ => readDecimal cs

end Inspection.Formula
