import Inspection.Decimal.Basic

/-!
# Shortest decimals

A double taken apart into its exact binary parts, and the decimal with the fewest digits that reads
back as it: the nearest of those, of two equally near ones the even one.
-/

namespace Inspection

-- powers of whole numbers are those of the core library, whatever else is in scope
attribute [local instance (high)] instPowNat

/-- The exact number `significand · 2 ^ scale` with a sign. -/
structure Binary where
  negative : Bool
  significand : Nat
  scale : Int
deriving Repr, DecidableEq

namespace Binary

/-- The parts of a finite double; for infinities and NaN the parts that its bits would give. -/
def ofFloat (x : Float) : Binary :=
  let bits := x.toBits.toNat
  let biased : Nat := bits / 2 ^ (52 : Nat) % 2 ^ (11 : Nat)
  let fraction : Nat := bits % 2 ^ (52 : Nat)
  if biased = 0 then ⟨bits / 2 ^ (63 : Nat) = 1, fraction, -1074⟩
  else ⟨bits / 2 ^ (63 : Nat) = 1, fraction + 2 ^ (52 : Nat), (biased : Int) - 1075⟩

/-- The magnitude's numerator. -/
def numerator (b : Binary) : Nat :=
  b.significand * 2 ^ b.scale.toNat

/-- The magnitude's denominator, a power of two. -/
def denominator (b : Binary) : Nat :=
  2 ^ (-b.scale).toNat

/-- The magnitude as an exact decimal. -/
def toDecimal (b : Binary) : Decimal :=
  ⟨b.significand * 2 ^ b.scale.toNat * 5 ^ (-b.scale).toNat, -((-b.scale).toNat : Int)⟩

end Binary

namespace Decimal

/-- Reads a magnitude as a double, correctly rounded. -/
def toFloat (d : Decimal) : Float :=
  let m := d.mantissa.natAbs
  let x := Float.ofScientific m (d.exponent < 0) d.exponent.natAbs
  if d.mantissa < 0 then -x else x

/-- The quotient of two numbers on the decimal grid `10 ^ exponent`: numerator and denominator. -/
def onGrid (num den : Nat) (exponent : Int) : Nat × Nat :=
  (num * 10 ^ (-exponent).toNat, den * 10 ^ exponent.toNat)

/-- Whether the quotient is at least `10 ^ exponent`. -/
def reaches (num den : Nat) (exponent : Int) : Bool :=
  let (n, d) := onGrid num den exponent
  d ≤ n

/-- The exponent of the leading digit of a positive quotient: an estimate from its binary logarithm,
put right by one step. -/
def leadingExponent (num den : Nat) : Int :=
  let binary : Int := (num.log2 : Int) - den.log2
  let estimate := (binary * 30103) / 100000
  if reaches num den (estimate + 1) then estimate + 1
  else if reaches num den estimate then estimate
  else estimate - 1

/-- Of the neighbours of the quotient on the grid `10 ^ exponent` the one that reads back as the
double, the nearer one if both do. -/
def neighbour? (x : Float) (num den : Nat) (exponent : Int) : Option Decimal :=
  let (n, d) := onGrid num den exponent
  let low : Decimal := ⟨n / d, exponent⟩
  let high : Decimal := ⟨n / d + 1, exponent⟩
  let near : Decimal := ⟨halfEven n d, exponent⟩
  if near.toFloat = x then some near
  else if low.toFloat = x then some low
  else if high.toFloat = x then some high
  else none

/-- Moves trailing zeros of the mantissa into the exponent. -/
def stripZeros : (fuel : Nat) → (mantissa : Nat) → (exponent : Int) → Decimal
  | fuel + 1, m, e => if m ≠ 0 ∧ m % 10 = 0 then stripZeros fuel (m / 10) (e + 1) else ⟨m, e⟩
  | 0, m, e => ⟨m, e⟩

/-- The first of `count` grids, from the one with `digits` digits on, that holds a decimal reading
back as the double. -/
def shortestFrom (x : Float) (num den : Nat) (leading : Int) : (count digits : Nat) → Option Decimal
  | 0, _ => none
  | count + 1, digits =>
    match neighbour? x num den (leading - digits + 1) with
    | some d => some d
    | none => shortestFrom x num den leading count (digits + 1)

/-- The decimal with the fewest digits that reads back as the finite magnitude `x`. -/
def shortest (x : Float) : Decimal :=
  let b := Binary.ofFloat x
  if b.significand = 0 then ⟨0, 0⟩
  else
    let leading := leadingExponent b.numerator b.denominator
    match shortestFrom x b.numerator b.denominator leading 17 1 with
    | some d => stripZeros 20 d.mantissa.natAbs d.exponent
    | none => b.toDecimal

/-- The shortest decimal of a finite double with its sign. -/
def ofFloat (x : Float) : Decimal :=
  if (Binary.ofFloat x).negative then -shortest (-x) else shortest x

end Decimal

end Inspection
