import Inspection.Decimal.Shortest

/-!
# Number formats

How a double is written: from which exponents on the exponent form is used, and how that looks. The
digits are the shortest that read back, or a fixed number of significant digits.
-/

namespace Inspection

-- powers of whole numbers are those of the core library, whatever else is in scope
attribute [local instance (high)] instPowNat

/-- The decisions of a way to write numbers. Exponents are those of the leading digit. -/
structure NumberFormat where
  /-- The least exponent that is written positionally. -/
  positionalFrom : Int
  /-- The least exponent from there on that is not. -/
  positionalBelow : Int
  /-- Whether a whole number ends in `.0`. -/
  showsFraction : Bool
  /-- Whether a positive exponent has a plus sign. -/
  showsPlus : Bool
  /-- The least number of digits of an exponent. -/
  exponentWidth : Nat
  /-- The number of significant digits, if it is fixed. -/
  significant : Option Nat
  notANumber : String
  infinity : String
  negativeInfinity : String

namespace NumberFormat

/-- The fewest digits that read back; positional from 10⁻⁴ to below 10¹⁶. -/
def plain : NumberFormat :=
  ⟨-4, 16, true, true, 2, none, "nan", "inf", "-inf"⟩

/-- As `plain`, with the names that JSON texts use for what is not finite. -/
def jsonText : NumberFormat :=
  { plain with notANumber := "NaN", infinity := "Infinity", negativeInfinity := "-Infinity" }

/-- The number format of stored documents: positional from 10⁻⁵ to below 10¹⁶, exponents bare, and
null for what is not finite. -/
def stored : NumberFormat :=
  ⟨-5, 16, true, false, 1, none, "null", "null", "null"⟩

/-- Six significant digits, for people to read. -/
def brief : NumberFormat :=
  ⟨-4, 6, false, true, 2, some 6, "nan", "inf", "-inf"⟩

/-- Digits padded with zeros on the left. -/
def padLeft (width : Nat) (cs : List Char) : List Char :=
  List.replicate (width - cs.length) '0' ++ cs

/-- The exponent form of digits whose first has the given exponent. -/
def writeExponent (f : NumberFormat) (digits : List Char) (e : Int) : List Char :=
  let mantissa := match digits with
    | c :: c' :: cs => c :: '.' :: c' :: cs
    | cs => cs
  let sign := if e < 0 then ['-'] else if f.showsPlus then ['+'] else []
  mantissa ++ 'e' :: sign ++ padLeft f.exponentWidth (Nat.toDigits 10 e.natAbs)

/-- The positional form of digits whose first has the given exponent. -/
def writePositional (f : NumberFormat) (digits : List Char) (e : Int) : List Char :=
  if e < 0 then
    '0' :: '.' :: List.replicate (-e - 1).toNat '0' ++ digits
  else
    let whole := digits.take (e.toNat + 1)
    let fraction := digits.drop (e.toNat + 1)
    whole ++ List.replicate (e.toNat + 1 - whole.length) '0' ++
      if fraction.isEmpty then (if f.showsFraction then ['.', '0'] else []) else '.' :: fraction

/-- A magnitude that has no trailing zeros. -/
def writeDecimal (f : NumberFormat) (d : Decimal) : List Char :=
  let digits := Nat.toDigits 10 d.mantissa.natAbs
  let e := if d.mantissa = 0 then 0 else d.exponent + digits.length - 1
  if f.positionalFrom ≤ e ∧ e < f.positionalBelow then f.writePositional digits e
  else f.writeExponent digits e

/-- The decimal that is written for a finite magnitude. -/
def decimal (f : NumberFormat) (x : Float) : Decimal :=
  match f.significant with
  | none => Decimal.shortest x
  | some n =>
    let d := (Binary.ofFloat x).toDecimal.limit n
    Decimal.stripZeros (Decimal.digitCount d.mantissa.natAbs) d.mantissa.natAbs d.exponent

/-- A double as text. -/
def write (f : NumberFormat) (x : Float) : String :=
  let negative := (Binary.ofFloat x).negative
  if x.isNaN then f.notANumber
  else if x.isInf then if negative then f.negativeInfinity else f.infinity
  else
    let magnitude := if negative then -x else x
    let text := String.ofList (f.writeDecimal (f.decimal magnitude))
    if negative then "-" ++ text else text

end NumberFormat

namespace Decimal

/-- The double nearest to `x` that has so many places, a half going to the even neighbour. -/
def roundedTo (places : Nat) (x : Float) : Float :=
  let b := Binary.ofFloat x
  let magnitude := toFloat ⟨halfEven (b.numerator * 10 ^ places) b.denominator, -(places : Int)⟩
  if b.negative then -magnitude else magnitude

/-- A finite double rounded to a whole number, as text. -/
def wholeText (x : Float) : String :=
  if x.isNaN then "nan"
  else
    let b := Binary.ofFloat x
    let text := if x.isInf then "inf" else toString (halfEven b.numerator b.denominator)
    if b.negative then "-" ++ text else text

end Decimal

end Inspection
