import Inspection.Number.Sum
import Inspection.Product.Basic

/-!
# Acceptance

Whether a measured number is acceptable by a rule. Numbers are compared as the exact decimals that
they are written as, so that a limit written in a rule is itself acceptable.
-/

namespace Inspection

/-- A number as rules compute with it. -/
inductive Extended
  | notANumber
  | infinite (negative : Bool)
  | finite (d : Decimal)
deriving Repr, DecidableEq

/-- Why a rule has no answer. -/
inductive RuleFault
  /-- Infinities cancel each other, or what is no number is to be put in order. -/
  | undefined
  /-- The measured integer is too large for a double. -/
  | hugeInteger
deriving Repr, DecidableEq

namespace Extended

/-- The number of significant digits of a sum. -/
def precision : Nat := 28

/-- The decimal that a double is written as. -/
def ofFloat (x : Float) : Extended :=
  if x.isNaN then notANumber
  else if x.isInf then infinite (x < 0.0)
  else finite (Decimal.ofFloat x)

/-- The number with the other sign. -/
def neg : Extended → Extended
  | notANumber => notANumber
  | infinite negative => infinite !negative
  | finite d => finite (-d)

/-- The sum, rounded to the precision. -/
def add : Extended → Extended → Except RuleFault Extended
  | notANumber, _ => .ok notANumber
  | _, notANumber => .ok notANumber
  | infinite a, infinite b => if a = b then .ok (infinite a) else .error .undefined
  | infinite a, finite _ => .ok (infinite a)
  | finite _, infinite b => .ok (infinite b)
  | finite a, finite b => .ok (finite ((a + b).limit precision))

/-- Whether the first number is not above the second. -/
def atMost : Extended → Extended → Except RuleFault Bool
  | notANumber, _ => .error .undefined
  | _, notANumber => .error .undefined
  | infinite a, infinite b => .ok (a || !b)
  | infinite a, finite _ => .ok a
  | finite _, infinite b => .ok !b
  | finite a, finite b => .ok (a ≤ b)

end Extended

namespace Rule

/-- A tolerance; a missing one is zero. -/
def tolerance : Option Float → Extended
  | some t => if t == 0.0 then .finite ⟨0, 0⟩ else Extended.ofFloat t
  | none => .finite ⟨0, 0⟩

/-- The lower limit of a rule with limits on both sides. -/
def lower (r : Rule) : Except RuleFault Extended :=
  (Extended.ofFloat r.value).add (tolerance r.toleranceMinus).neg

/-- The upper limit of a rule with limits on both sides. -/
def upper (r : Rule) : Except RuleFault Extended :=
  (Extended.ofFloat r.value).add (tolerance r.tolerancePlus)

/-- Whether a finite number is acceptable. -/
def admits (r : Rule) (x : Float) : Except RuleFault Bool :=
  let measured := Extended.ofFloat x
  match r.kind with
  | .min => (Extended.ofFloat r.value).atMost measured
  | .max => measured.atMost (Extended.ofFloat r.value)
  | .between => do
    let lower ← r.lower
    let upper ← r.upper
    if ← lower.atMost measured then measured.atMost upper else return false

/-- Whether a measured number is acceptable. What is missing or not finite never is, and nothing is
acceptable without a rule. -/
def accepts (rule : Option Rule) (x : Option Float) : Except RuleFault Bool :=
  match rule, x with
  | some r, some x => if Number.isFinite x then r.admits x else .ok false
  | _, _ => .ok false

/-- Whether a value of any kind is acceptable; only numbers can be. -/
def acceptsValue (rule : Option Rule) : Json → Except RuleFault Bool
  | .int n =>
    match Decimal.floatOfInt? n with
    | some x => accepts rule (some x)
    | none => .error .hugeInteger
  | .float x => accepts rule (some x)
  | _ => .ok false

end Rule

end Inspection
