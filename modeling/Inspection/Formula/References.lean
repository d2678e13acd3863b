import Inspection.Formula.Reader

/-!
# References of formulas

The names that a formula mentions, each once and in the order of first appearance: those it reads as
numbers, those it hands to `AVG` as samples, and those it calls. A formula's text that mentions none
is kept together with why it fails, as those report it who know more than one formula.
-/

namespace Inspection.Formula

/-- The function that takes the samples of an item. -/
def averageName : String := "AVG"

/-- Adds a name at the end unless it is there. -/
def addNew (names : List String) (name : String) : List String :=
  if name ∈ names then names else names ++ [name]

/-- The names that a formula mentions. -/
structure References where
  names : List String
  averaged : List String
  functions : List String
deriving Repr, DecidableEq

namespace References

/-- No names. -/
def none : References := ⟨[], [], []⟩

end References

mutual

/-- Adds the names that a formula mentions. -/
def Expr.collect (r : References) : Expr → References
  | .literal _ => r
  | .name n => { r with names := addNew r.names n }
  | .unary _ e => e.collect r
  | .arith _ a b => b.collect (a.collect r)
  | .compare first rest => collectRelated (first.collect r) rest
  | .connect _ operands => collectAll r operands
  | .call f args =>
    collectArguments f { r with functions := addNew r.functions f } args

/-- Adds the names that formulas mention, from left to right. -/
def collectAll (r : References) : List Expr → References
  | [] => r
  | e :: rest => collectAll (e.collect r) rest

/-- Adds the names that compared operands mention, from left to right. -/
def collectRelated (r : References) : List (Relation × Expr) → References
  | [] => r
  | (_, e) :: rest => collectRelated (e.collect r) rest

/-- Adds the names that the arguments of a call mention; names handed to `AVG` stand for samples. -/
def collectArguments (f : String) (r : References) : List Expr → References
  | [] => r
  | .name n :: rest =>
    if f = averageName then collectArguments f { r with averaged := addNew r.averaged n } rest
    else collectArguments f { r with names := addNew r.names n } rest
  | e :: rest => collectArguments f (e.collect r) rest

end

/-- The names that a formula mentions. -/
def Expr.references (e : Expr) : References :=
  e.collect References.none

/-- The names that a formula's text mentions. -/
def references (text : String) : Except Cause References := do
  return (← parse text).references

/-- A formula's text and why it fails. -/
structure Failure where
  text : String
  cause : Cause
deriving Repr, DecidableEq

/-- The names that a formula's text mentions, or the text with why it mentions none. -/
def referencesOf (text : String) : Except Failure References :=
  match references text with
  | .ok r => .ok r
  | .error cause => .error ⟨text, cause⟩

end Inspection.Formula
