/-!
# Decimal numbers

Exact decimal numbers, their order and sum, and rounding to a number of significant digits with ties
to even.
-/

namespace Inspection

-- powers of whole numbers are those of the core library, whatever else is in scope
attribute [local instance (high)] instPowNat

/-- The number `mantissa · 10 ^ exponent`. -/
structure Decimal where
  mantissa : Int
  exponent : Int
deriving Repr, DecidableEq

namespace Decimal

/-- The number of decimal digits; one for zero. -/
def digitCount (n : Nat) : Nat :=
  (Nat.toDigits 10 n).length

/-- The quotient rounded to the nearest number, a half to the even one. -/
def halfEven (num den : Nat) : Nat :=
  let q := num / den
  let r := num % den
  if 2 * r < den then q
  else if den < 2 * r then q + 1
  else if q % 2 = 0 then q
  else q + 1

/-- The mantissa of the number on the grid of a lower exponent. -/
def mantissaAt (d : Decimal) (exponent : Int) : Int :=
  d.mantissa * 10 ^ (d.exponent - exponent).toNat

/-- The finer of the two grids. -/
def commonExponent (a b : Decimal) : Int :=
  min a.exponent b.exponent

/-- The order of the numbers, compared on a common grid. -/
def le (a b : Decimal) : Bool :=
  a.mantissaAt (commonExponent a b) ≤ b.mantissaAt (commonExponent a b)

instance : LE Decimal := ⟨fun a b => le a b = true⟩

instance (a b : Decimal) : Decidable (a ≤ b) :=
  inferInstanceAs (Decidable (le a b = true))

/-- The exact sum. -/
def add (a b : Decimal) : Decimal :=
  let e := commonExponent a b
  ⟨a.mantissaAt e + b.mantissaAt e, e⟩

instance : Add Decimal := ⟨add⟩

/-- The number with the other sign. -/
def neg (a : Decimal) : Decimal :=
  ⟨-a.mantissa, a.exponent⟩

instance : Neg Decimal := ⟨neg⟩

instance : Sub Decimal := ⟨fun a b => a + -b⟩

/-- The nearest number with no more than so many significant digits, ties to even. -/
def limit (digits : Nat) (d : Decimal) : Decimal :=
  let excess := digitCount d.mantissa.natAbs - digits
  if excess = 0 then d
  else ⟨d.mantissa.sign * halfEven d.mantissa.natAbs (10 ^ excess), d.exponent + excess⟩

end Decimal

end Inspection
