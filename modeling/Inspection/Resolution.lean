import Inspection.Context
import Inspection.Fault
import Inspection.Formula.Evaluate
import Inspection.Text.Digit

/-!
# Resolution of variables

The values of a point's variables, in the order of their declaration. A fixed variable has its value
declared, a manual one takes it from the input, and a formula computes one from the variables before
it and from the samples of other items. Either every variable has a value, or all failures are
reported together.
-/

namespace Inspection

/-- The inputs of manual variables; a given input may still be no number. -/
abbrev Inputs := String → Option (Outcome Float)

/-- Inputs that are numbers. -/
def Inputs.ofTable (t : Table Float) : Inputs :=
  fun name => (t.find? name).map .ok

/-- The number that an input from outside is taken for; a text may use the digits of any script. -/
def Inputs.number : Json → Outcome Float
  | .int n => match Decimal.floatOfInt? n with
    | some x => .ok x
    | none => .error (.overflow .hugeInteger)
  | .float x => .ok x
  | .bool b => .ok (if b then 1.0 else 0.0)
  | .text s => match Decimal.floatOfText? (Text.asciiDigits s) with
    | some x => .ok x
    | none => .error (.value (.notNumeric s))
  | _ => .error .wrongKind

/-- Inputs from outside; null stands for no input. -/
def Inputs.ofMembers (ms : List (String × Json)) : Inputs :=
  fun name => match ms.lookup name with
    | none | some .null => none
    | some j => some (number j)

/-- What the items of a list from outside stand for after some numbers: an array, unless one of them
is no number or too large. -/
def arrayOf (before : List Float) : List Json → Formula.Binding
  | [] => .array (before.reverse.map .inr)
  | .int n :: rest =>
    match Decimal.floatOfInt? n with
    | some x => arrayOf (x :: before) rest
    | none => .integer n
  | .float x :: rest => arrayOf (x :: before) rest
  | .bool b :: rest => arrayOf ((if b then 1.0 else 0.0) :: before) rest
  | .text s :: rest =>
    match Decimal.floatOfText? (Text.asciiDigits s) with
    | some x => arrayOf (x :: before) rest
    | none => .unreadable (some s)
  | _ :: _ => .unreadable none

/-- What a value from outside stands for in a formula. Of a record only the names count. -/
def bindingOf : Json → Formula.Binding
  | .int n => .integer n
  | .float x => .float x
  | .list items => arrayOf [] items
  | .record members => arrayOf [] (members.map fun m => .text m.1)
  | _ => .notNumeric

/-- Evaluates a formula's text with the standard functions; the outer outcome is an integer too
large to compute with, or an array of what is no number. -/
def evaluateText (bindings : Formula.Bindings) (text : String) :
    Outcome (Except Formula.Failure Float) :=
  match Formula.evaluate Formula.standard bindings text with
  | .ok x => .ok (.ok x)
  | .error (.failure cause) => .ok (.error ⟨text, cause⟩)
  | .error halt => .error (.ofHalt text halt)

/-- Variables as far as they are resolved, and the failures of the others. -/
structure Resolution where
  resolved : Table Float
  failures : Table VariableFailure

namespace Resolution

/-- Nothing resolved yet. -/
def start : Resolution := ⟨.empty, .empty⟩

/-- Notes the value of a variable. -/
def succeed (r : Resolution) (name : String) (x : Float) : Resolution :=
  { r with resolved := r.resolved.insert name x }

/-- Notes why a variable has no value. -/
def fail (r : Resolution) (name : String) (cause : VariableCause) (missing : List String) :
    Resolution :=
  { r with failures := r.failures.insert name ⟨name, cause, missing⟩ }

/-- The items whose data the failures of some names lack, each once. -/
def inherited (r : Resolution) (names : List String) : List String :=
  (names.flatMap fun n => ((r.failures.find? n).map VariableFailure.missing).getD []).foldl
    Formula.addNew []

/-- What names in a formula of a variable stand for: items under an average stand for their samples,
other names for variables before it. -/
def bindings (r : Resolution) (context : Context) (averaged : List String) : Formula.Bindings :=
  fun name =>
    match if name ∈ averaged then context.averaged? name else none with
    | some samples => some (.ofSamples samples)
    | none => (r.resolved.find? name).map .float

/-- Resolves a variable by its formula. -/
def resolveFormula (r : Resolution) (context : Context) (name text : String) :
    Outcome Resolution :=
  match Formula.references text with
  | .error (.unworkable o) => .error (.ofObstacle o)
  | .error cause => .ok (r.fail name (.formula ⟨text, cause⟩) [])
  | .ok references =>
    let blocked := references.names.filter r.failures.contains
    let missing := references.averaged.filter fun n => (context.averaged? n).isNone
    if !blocked.isEmpty then .ok (r.fail name (.blocked blocked) (r.inherited blocked))
    else if !missing.isEmpty then .ok (r.fail name (.noData missing) missing)
    else do
      match ← evaluateText (r.bindings context references.averaged) text with
      | .ok x => return r.succeed name x
      | .error failure => return r.fail name (.formula failure) []

/-- Resolves one more variable. -/
def step (inputs : Inputs) (context : Context) (r : Resolution) (v : Variable) :
    Outcome Resolution :=
  match v.kind with
  | .fixed =>
    match v.value with
    | some x => .ok (r.succeed v.name x)
    | none => .ok (r.fail v.name .valueMissing [])
  | .manual =>
    match inputs v.name with
    | some x => do return r.succeed v.name (← x)
    | none => .ok (r.fail v.name .inputMissing [])
  | .formula =>
    match v.formula.filter (· ≠ "") with
    | some text => r.resolveFormula context v.name text
    | none => .ok (r.fail v.name .formulaMissing [])

end Resolution

/-- The values of variables, in the order of their declaration. -/
def resolve (declarations : List Variable) (inputs : Inputs) (context : Context)
    (item : Option String) : Outcome (Table Float) := do
  let r ← declarations.foldlM (Resolution.step inputs context) .start
  if r.failures.entries.isEmpty then return r.resolved
  else raise (.unresolved item r.failures.values)

end Inspection
