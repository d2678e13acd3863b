import Inspection.Json.Basic
import Inspection.Decimal.Reader

/-!
# Reading JSON

The value that a text writes, or why it writes none. A number with a fraction or an exponent is a double,
any other an integer; `NaN` and `Infinity` are numbers; of members with one name the last counts.
-/

namespace Inspection

/-- Why a text writes no JSON value. -/
inductive JsonFlaw
  | malformed
  /-- An integer has more digits than are read. -/
  | digits (count : Nat)
deriving Repr, DecidableEq

namespace Json

/-- Blanks between the parts of a text. -/
def isGap (c : Char) : Bool :=
  c = ' ' || c = '\t' || c = '\n' || c = '\r'

/-- The text after leading gaps. -/
def skipGaps (cs : List Char) : List Char :=
  cs.dropWhile isGap

/-- The value of a hexadecimal digit. -/
def hexValue? (c : Char) : Option Nat :=
  if c.isDigit then some (c.toNat - '0'.toNat)
  else if 'a' ≤ c ∧ c ≤ 'f' then some (c.toNat - 'a'.toNat + 10)
  else if 'A' ≤ c ∧ c ≤ 'F' then some (c.toNat - 'A'.toNat + 10)
  else none

/-- The number of four hexadecimal digits. -/
def hex4? (a b c d : Char) : Option Nat := do
  return (((← hexValue? a) * 16 + (← hexValue? b)) * 16 + (← hexValue? c)) * 16 + (← hexValue? d)

/-- The character of a code point; half of a pair that stands alone is shown as U+FFFD. -/
def charOf (n : Nat) : Char :=
  if 0xd800 ≤ n ∧ n < 0xe000 then '\ufffd' else Char.ofNat n

/-- The character that a backslash and another character stand for. -/
def escape? (c : Char) : Option Char :=
  if c = '"' ∨ c = '\\' ∨ c = '/' then some c
  else if c = 'b' then some '\x08'
  else if c = 'f' then some '\x0c'
  else if c = 'n' then some '\n'
  else if c = 'r' then some '\r'
  else if c = 't' then some '\t'
  else none

/-- The characters up to the closing quote, and the text after it. -/
def readString : List Char → Option (List Char × List Char)
  | [] => none
  | '"' :: rest => some ([], rest)
  | '\\' :: 'u' :: a :: b :: c :: d :: '\\' :: 'u' :: a' :: b' :: c' :: d' :: rest => do
    let high ← hex4? a b c d
    match hex4? a' b' c' d' with
    | some low =>
      if 0xd800 ≤ high ∧ high < 0xdc00 ∧ 0xdc00 ≤ low ∧ low < 0xe000 then
        let (s, rest) ← readString rest
        return (Char.ofNat (0x10000 + (high - 0xd800) * 0x400 + (low - 0xdc00)) :: s, rest)
      else
        let (s, rest) ← readString ('\\' :: 'u' :: a' :: b' :: c' :: d' :: rest)
        return (charOf high :: s, rest)
    | none => none
  | '\\' :: 'u' :: a :: b :: c :: d :: rest => do
    let n ← hex4? a b c d
    let (s, rest) ← readString rest
    return (charOf n :: s, rest)
  | '\\' :: c :: rest => do
    let e ← escape? c
    let (s, rest) ← readString rest
    return (e :: s, rest)
  | c :: rest => do
    if c.toNat < 32 then none
    else
      let (s, rest) ← readString rest
      return (c :: s, rest)

/-- The leading digits and the text after them. -/
def digits (cs : List Char) : List Char × List Char :=
  (cs.takeWhile Char.isDigit, cs.dropWhile Char.isDigit)

/-- The digits before a point: a zero, or digits that start with another one. -/
def wholePart : List Char → List Char × List Char
  | '0' :: rest => (['0'], rest)
  | cs => digits cs

/-- The digits after a point; nothing is read where none follow. -/
def fractionPart : List Char → List Char × List Char
  | '.' :: rest =>
    match digits rest with
    | ([], _) => ([], '.' :: rest)
    | found => found
  | cs => ([], cs)

/-- The exponent after `e`; nothing is read where no digits follow. -/
def exponentPart? (cs : List Char) : Option Int × List Char :=
  match cs with
  | c :: rest =>
    if c = 'e' ∨ c = 'E' then
      let (negative, after) := Decimal.signPart rest
      match digits after with
      | ([], _) => (none, cs)
      | (ds, after) =>
        (some (if negative then -(Decimal.ofDigits ds : Int) else Decimal.ofDigits ds), after)
    else (none, cs)
  | [] => (none, [])

/-- What is said of an integer with too many digits. -/
def digitsMessage (count : Nat) : String :=
  "Exceeds the limit (" ++ toString Decimal.maxIntegerDigits ++
    " digits) for integer string conversion: value has " ++ toString count ++
    " digits; use sys.set_int_max_str_digits() to increase the limit"

/-- A number without its sign: an integer, or a double. -/
def readNumber (negative : Bool) (cs : List Char) : Except JsonFlaw (Json × List Char) :=
  match wholePart cs with
  | ([], _) => .error .malformed
  | (ds, rest) =>
    let (fraction, rest) := fractionPart rest
    let (e?, rest) := exponentPart? rest
    if fraction.isEmpty && e?.isNone then
      if Decimal.maxIntegerDigits < ds.length then .error (.digits ds.length)
      else
        let n : Int := Decimal.ofDigits ds
        .ok (int (if negative then -n else n), rest)
    else
      let x := Decimal.toFloat ⟨Decimal.ofDigits (ds ++ fraction), e?.getD 0 - fraction.length⟩
      .ok (float (if negative then -x else x), rest)

/-- A value written as a word. -/
def words : List (String × Json) :=
  [("null", null), ("true", bool true), ("false", bool false), ("NaN", float (0.0 / 0.0)),
    ("Infinity", float (1.0 / 0.0)), ("-Infinity", float (-1.0 / 0.0))]

/-- The word that the text starts with, and the text after it. -/
def readWord (cs : List Char) : Option (Json × List Char) :=
  words.findSome? fun (word, value) =>
    if word.toList.isPrefixOf cs then some (value, cs.drop word.length) else none

/-- What was read, if anything was. -/
def orMalformed {α : Type} : Option α → Except JsonFlaw α
  | some a => .ok a
  | none => .error .malformed

mutual

/-- The value at the start of the text, and the text after it. -/
def readValue : (fuel : Nat) → List Char → Except JsonFlaw (Json × List Char)
  | 0, _ => .error .malformed
  | fuel + 1, cs =>
    match cs with
    | '"' :: rest => do
      let (s, rest) ← orMalformed (readString rest)
      return (text (String.ofList s), rest)
    | '[' :: rest =>
      match skipGaps rest with
      | ']' :: rest => .ok (list [], rest)
      | rest => do
        let (items, rest) ← readItems fuel rest
        return (list items, rest)
    | '\x7b' :: rest =>
      match skipGaps rest with
      | '\x7d' :: rest => .ok (record [], rest)
      | rest => do
        let (members, rest) ← readMembers fuel rest []
        return (record members, rest)
    | _ =>
      match readWord cs with
      | some found => .ok found
      | none =>
        match cs with
        | '-' :: rest => readNumber true rest
        | _ => readNumber false cs

/-- The items up to the closing bracket. -/
def readItems : (fuel : Nat) → List Char → Except JsonFlaw (List Json × List Char)
  | 0, _ => .error .malformed
  | fuel + 1, cs => do
    let (item, rest) ← readValue fuel cs
    match skipGaps rest with
    | ',' :: rest =>
      let (items, rest) ← readItems fuel (skipGaps rest)
      return (item :: items, rest)
    | ']' :: rest => return ([item], rest)
    | _ => .error .malformed

/-- The members up to the closing brace, after those already read. -/
def readMembers : (fuel : Nat) → List Char → List (String × Json) →
    Except JsonFlaw (List (String × Json) × List Char)
  | 0, _, _ => .error .malformed
  | fuel + 1, cs, before =>
    match cs with
    | '"' :: rest => do
      let (key, rest) ← orMalformed (readString rest)
      match skipGaps rest with
      | ':' :: rest =>
        let (value, rest) ← readValue fuel (skipGaps rest)
        let members := putEntry (String.ofList key) value before
        match skipGaps rest with
        | ',' :: rest => readMembers fuel (skipGaps rest) members
        | '\x7d' :: rest => return (members, rest)
        | _ => .error .malformed
      | _ => .error .malformed
    | _ => .error .malformed

end

/-- The value that a whole text writes. -/
def read (s : String) : Except JsonFlaw Json :=
  let cs := s.toList
  match readValue (cs.length + 1) (skipGaps cs) with
  | .ok (value, rest) => if (skipGaps rest).isEmpty then .ok value else .error .malformed
  | .error flaw => .error flaw

end Json

end Inspection
