import Inspection.Formula.Reader

/-!
# Evaluation of formulas

A formula computes a number from the values bound to its names. Operands are evaluated from left to
right, and those that cannot matter are not evaluated: the branch not chosen, and what follows once
a condition is decided.
-/

namespace Inspection.Formula

/-- What a name stands for. -/
inductive Binding
  | integer (n : Int)
  | float (x : Float)
  | array (items : List (Int ⊕ Float))
  | notNumeric
  /-- An array with an item that is no number: a text that writes none, or no text either. -/
  | unreadable (text : Option String)

/-- What names stand for. -/
abbrev Bindings := String → Option Binding

/-- The bindings with one more, which goes before an older one of its name. -/
def Bindings.bind (b : Bindings) (name : String) (value : Binding) : Bindings :=
  fun n => if n = name then some value else b n

/-- The array of some doubles. -/
def Binding.ofSamples (xs : List Float) : Binding :=
  .array (xs.map .inr)

/-- Why an evaluation ends without a number: the formula fails, an integer is too large to compute
with, or an array holds what is no number. -/
inductive Halt
  | failure (cause : Cause)
  | hugeInteger
  | unreadable (text : Option String)
deriving DecidableEq

/-- Stops with a cause. -/
def fail {α : Type} (cause : Cause) : Except Halt α :=
  .error (.failure cause)

/-- An integer as a double. -/
def ofInteger (n : Int) : Except Halt Float :=
  match Decimal.floatOfInt? n with
  | some x => .ok x
  | none => .error .hugeInteger

/-- The number of a value; an array is none. -/
def Value.asNumber (v : Value) (role : Role) : Except Halt Float :=
  match v.scalar? with
  | some x => .ok x
  | none => fail (.arrayAs role)

/-- Whether a condition holds: a number holds unless it is zero. -/
def Value.holds (v : Value) : Except Halt Bool :=
  match v with
  | .flag b => .ok b
  | v => do return (← v.asNumber .condition) != 0.0

/-- A number that is not infinite. -/
def finite (x : Float) : Except Halt Value :=
  if Number.isFinite x then .ok (.number x) else fail .notFinite

/-- The value of a written number. -/
def Literal.value : Literal → Except Halt Value
  | integer n => do return .number (← ofInteger n)
  | float x => .ok (.number x)

/-- The doubles of an array's items. -/
def itemNumbers : List (Int ⊕ Float) → Except Halt (List Float)
  | [] => .ok []
  | .inl n :: rest => do return (← ofInteger n) :: (← itemNumbers rest)
  | .inr x :: rest => do return x :: (← itemNumbers rest)

/-- The value of a name. -/
def lookup (bindings : Bindings) (name : String) : Except Halt Value :=
  match bindings name with
  | none => fail (.unknownName name)
  | some .notNumeric => fail (.notNumeric name)
  | some (.unreadable text) => .error (.unreadable text)
  | some (.integer n) => do return .number (← ofInteger n)
  | some (.float x) => .ok (.number x)
  | some (.array items) => do return .array (← itemNumbers items)

/-- The value of an operator between two numbers. -/
def Arith.apply (op : Arith) (x y : Float) : Except Halt Value :=
  match op with
  | add => finite (x + y)
  | sub => finite (x - y)
  | mul => finite (x * y)
  | div => if y == 0.0 then fail .divisionByZero else finite (x / y)
  | pow =>
    match Number.power x y with
    | .ok r => finite r
    | .error .zeroDivision => fail .divisionByZero
    | .error .overflow => fail .overflow
    | .error .notReal => fail .notReal

/-- Whether two numbers are so related. -/
def Relation.test (r : Relation) (x y : Float) : Bool :=
  match r with
  | eq => x == y
  | ne => x != y
  | lt => x < y
  | le => x ≤ y
  | gt => x > y
  | ge => x ≥ y

/-- The value of an operator before an operand. -/
def Unary.apply (op : Unary) (v : Value) : Except Halt Value :=
  match op with
  | not => do return .flag (!(← v.holds))
  | plus => do return .number (← v.asNumber .operand)
  | minus => do return .number (-(← v.asNumber .operand))

/-- Whether the conditions so connected are decided once one of them has the given truth. -/
def Connective.decidedBy : Connective → Bool → Bool
  | .and, b => !b
  | .or, b => b

/-- The value that a called function answers. -/
def answered (name : String) (answer : Except Misuse Answer) : Except Halt Value :=
  match answer with
  | .error misuse => fail (.badCall name misuse)
  | .ok .other => fail (.noNumber name)
  | .ok (.number x) => finite x
  | .ok (.integer n) => do finite (← ofInteger n)

section

variable (functions : Functions) (bindings : Bindings)

mutual

/-- The value of a formula. -/
def Expr.eval : Expr → Except Halt Value
  | .literal l => l.value
  | .name n => lookup bindings n
  | .unary op e => do op.apply (← e.eval)
  | .arith op a b => do
    let x ← (← a.eval).asNumber .leftOperand
    let y ← (← b.eval).asNumber .rightOperand
    op.apply x y
  | .compare first rest => do
    let x ← (← first.eval).asNumber .comparisonOperand
    evalRelated x rest
  | .connect op operands => evalConnected op operands
  | .call f args =>
    if f = choiceName then
      match args with
      | [c, t, e] => do
        if ← (← c.eval).holds then t.eval else e.eval
      | args => fail (.choiceArity args.length)
    else
      match functions f with
      | none => fail (.unknownFunction f)
      | some function => do answered f (function (← evalAll args))

/-- The values of arguments, from left to right. -/
def evalAll : List Expr → Except Halt (List Value)
  | [] => .ok []
  | e :: rest => do
    let v ← e.eval
    return v :: (← evalAll rest)

/-- Whether a chain of comparisons holds that goes on from a number; it ends where one fails. -/
def evalRelated (x : Float) : List (Relation × Expr) → Except Halt Value
  | [] => .ok (.flag true)
  | (r, e) :: rest => do
    let y ← (← e.eval).asNumber .comparisonOperand
    if r.test x y then evalRelated y rest else return .flag false

/-- Whether all or any of the conditions hold; it ends where that is decided. -/
def evalConnected (op : Connective) : List Expr → Except Halt Value
  | [] => .ok (.flag (!op.decidedBy true))
  | e :: rest => do
    let b ← (← e.eval).holds
    if op.decidedBy b then return .flag b else evalConnected op rest

end

end

/-- The number that a formula computes. -/
def Expr.number (functions : Functions) (bindings : Bindings) (e : Expr) : Except Halt Float := do
  (← e.eval functions bindings).asNumber .result

/-- The number that a formula's text computes. -/
def evaluate (functions : Functions) (bindings : Bindings) (text : String) : Except Halt Float :=
  match parse text with
  | .error cause => fail cause
  | .ok e => e.number functions bindings

end Inspection.Formula
