import Inspection.Number.Power

/-!
# Functions of formulas

What formulas compute with, and the functions that every formula may call.
-/

namespace Inspection.Formula

/-- What a part of a formula computes: the truth of a condition, a number, or the samples of an
item. -/
inductive Value
  | flag (b : Bool)
  | number (x : Float)
  | array (xs : List Float)
deriving DecidableEq

/-- The name under which a function is defined, and the names of its parameters. -/
structure Signature where
  name : String
  parameters : List String
deriving Repr, DecidableEq

/-- Why a function refuses its arguments. -/
inductive Misuse
  | missing (signature : Signature) (given : Nat)
  | surplus (signature : Signature) (given : Nat)
  | arrayFor (function : String)
  | nothingFor (function : String)
  | numberForMean
  | emptyMean
  | sum (fault : Number.SumFault)
  | range (fault : Number.RangeFault)
deriving Repr, DecidableEq

/-- Quoted names with `and` before the last. -/
def namesText : List String → String
  | [] => ""
  | [n] => "'" ++ n ++ "'"
  | [n, m] => "'" ++ n ++ "' and '" ++ m ++ "'"
  | n :: rest => "'" ++ n ++ "', " ++ namesText rest

/-- The refusal in words. -/
def Misuse.message : Misuse → String
  | missing s given =>
    let names := s.parameters.drop given
    s.name ++ "() missing " ++ toString names.length ++ " required positional argument" ++
      (if names.length = 1 then "" else "s") ++ ": " ++ namesText names
  | surplus s given =>
    let takes := s.parameters.length
    s.name ++ "() takes " ++ toString takes ++ " positional argument" ++
      (if takes = 1 then "" else "s") ++ " but " ++ toString given ++ " were given"
  | arrayFor f => f ++ "() expects a number, got an array"
  | nothingFor f => f ++ "() needs at least one value"
  | numberForMean => "AVG() expects a measurement item or array, got a number"
  | emptyMean => "AVG() of an empty array"
  | sum fault => fault.message
  | range fault => fault.message

/-- What a function answers; only numbers are of use to a formula. -/
inductive Answer
  | number (x : Float)
  | integer (n : Int)
  | other
deriving DecidableEq

/-- A function that formulas may call. -/
abbrev Function := List Value → Except Misuse Answer

/-- The number of a value that is no array; a condition counts as 1 or 0. -/
def Value.scalar? : Value → Option Float
  | flag b => some (if b then 1.0 else 0.0)
  | number x => some x
  | array _ => none

/-- The numbers of a value. -/
def Value.numbers : Value → List Float
  | flag b => [if b then 1.0 else 0.0]
  | number x => [x]
  | array xs => xs

/-- The number of an argument, which must not be an array. -/
def scalarArgument (function : String) (v : Value) : Except Misuse Float :=
  match v.scalar? with
  | some x => .ok x
  | none => .error (.arrayFor function)

/-- The mean of an array. -/
def average : Function := fun args =>
  let s : Signature := ⟨"average", ["values"]⟩
  match args with
  | [] => .error (.missing s 0)
  | [.array []] => .error .emptyMean
  | [.array xs] =>
    match Number.mean xs with
    | .ok x => .ok (.number x)
    | .error e => .error (.sum e)
  | [_] => .error .numberForMean
  | args => .error (.surplus s args.length)

/-- The square root. -/
def squareRoot : Function := fun args =>
  let s : Signature := ⟨"square_root", ["value"]⟩
  match args with
  | [] => .error (.missing s 0)
  | [v] => do
    let x ← scalarArgument "sqrt" v
    match Number.rootOf x with
    | .ok r => .ok (.number r)
    | .error e => .error (.range e)
  | args => .error (.surplus s args.length)

/-- The power of two arguments. -/
def powerFunction : Function := fun args =>
  let s : Signature := ⟨"power", ["base", "exponent"]⟩
  match args with
  | [] => .error (.missing s 0)
  | [_] => .error (.missing s 1)
  | [b, e] => do
    let x ← scalarArgument "pow" b
    let y ← scalarArgument "pow" e
    match Number.powerOf x y with
    | .ok r => .ok (.number r)
    | .error e => .error (.range e)
  | args => .error (.surplus s args.length)

/-- The magnitude. -/
def absolute : Function := fun args =>
  let s : Signature := ⟨"absolute", ["value"]⟩
  match args with
  | [] => .error (.missing s 0)
  | [v] => do
    let x ← scalarArgument "abs" v
    .ok (.number x.abs)
  | args => .error (.surplus s args.length)

/-- The first of the numbers that no later one precedes. -/
def extreme (precedes : Float → Float → Bool) (name : String) : Function := fun args =>
  match args.flatMap Value.numbers with
  | [] => .error (.nothingFor name)
  | x :: xs => .ok (.number (xs.foldl (fun best y => if precedes y best then y else best) x))

/-- The least of all numbers of the arguments. -/
def minimum : Function := extreme (fun x y => x < y) "min"

/-- The greatest of all numbers of the arguments. -/
def maximum : Function := extreme (fun x y => x > y) "max"

/-- The functions under their names. -/
abbrev Functions := String → Option Function

/-- The functions that every formula may call, with their names. -/
def standardFunctions : List (String × Function) :=
  [("AVG", average), ("sqrt", squareRoot), ("pow", powerFunction), ("abs", absolute),
    ("min", minimum), ("max", maximum)]

/-- The functions that every formula may call. -/
def standard : Functions := fun name => standardFunctions.lookup name

end Inspection.Formula
