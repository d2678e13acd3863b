import Inspection.Number.Sum

/-!
# Powers and roots

Powers of doubles as an operator and as a function, and square roots. Where no real number is the
answer, the operator and the function differ in what they call wrong.
-/

namespace Inspection.Number

-- powers of whole numbers are those of the core library, whatever else is in scope
attribute [local instance (high)] instPowNat

/-- Infinity. -/
def infinity : Float := 1.0 / 0.0

/-- Whether a finite double is an odd integer. -/
def isOdd (y : Float) : Bool :=
  let r := y.abs - 2.0 * (y.abs / 2.0).floor
  r == 1.0

/-- Whether a finite double is an integer. -/
def isWhole (y : Float) : Bool :=
  y.floor == y

/-- Whether the sign of a double is minus, of zeros too. -/
def isNegative (x : Float) : Bool :=
  x.toBits.toNat / 2 ^ (63 : Nat) = 1

/-- Why the operator gives no power. -/
inductive PowerFault
  | zeroDivision
  | overflow
  | notReal
deriving Repr, DecidableEq

/-- The power of a finite positive base to a finite exponent, with a sign. -/
def finitePower (negate : Bool) (x y : Float) : Except PowerFault Float :=
  let magnitude := if x == 1.0 then 1.0 else Float.pow x y
  if magnitude.isInf then .error .overflow
  else .ok (if negate then -magnitude else magnitude)

/-- The power that the operator gives. -/
def power (x y : Float) : Except PowerFault Float :=
  if y == 0.0 then .ok 1.0
  else if x.isNaN then .ok x
  else if y.isNaN then .ok (if x == 1.0 then 1.0 else y)
  else if y.isInf then
    let magnitude := x.abs
    if magnitude == 1.0 then .ok 1.0
    else .ok (if (y > 0.0) == (magnitude > 1.0) then infinity else 0.0)
  else if x.isInf then
    if y > 0.0 then .ok (if isOdd y then x else x.abs)
    else .ok (if isOdd y && isNegative x then -0.0 else 0.0)
  else if x == 0.0 then
    if y < 0.0 then .error .zeroDivision
    else .ok (if isOdd y then x else 0.0)
  else if x < 0.0 then
    if isWhole y then finitePower (isOdd y) (-x) y
    else if (Float.pow (-x) y).isInf then .error .overflow
    else .error .notReal
  else finitePower false x y

/-- Why a function of real numbers has no value. -/
inductive RangeFault
  | domain
  | range
deriving Repr, DecidableEq

/-- The fault in words. -/
def RangeFault.message : RangeFault → String
  | domain => "math domain error"
  | range => "math range error"

/-- The power that the function gives: as the operator where the arguments are not finite. -/
def powerOf (x y : Float) : Except RangeFault Float :=
  if !isFinite x || !isFinite y then
    if x.isNaN then .ok (if y == 0.0 then 1.0 else x)
    else if y.isNaN then .ok (if x == 1.0 then 1.0 else y)
    else if x.isInf then
      if y.isInf then .ok (if y > 0.0 then infinity else 0.0)
      else
        let odd := isOdd y
        if y > 0.0 then .ok (if odd then x else x.abs)
        else if y == 0.0 then .ok 1.0
        else .ok (if odd && isNegative x then -0.0 else 0.0)
    else if x.abs == 1.0 then .ok 1.0
    else if y > 0.0 then .ok (if x.abs > 1.0 then infinity else 0.0)
    else .ok (if x.abs < 1.0 then infinity else 0.0)
  else
    let r := Float.pow x y
    if r.isNaN then .error .domain
    else if r.isInf then .error (if x == 0.0 then .domain else .range)
    else .ok r

/-- The square root of a number that is not negative. -/
def rootOf (x : Float) : Except RangeFault Float :=
  let r := x.sqrt
  if r.isNaN && !x.isNaN then .error .domain else .ok r

end Inspection.Number
