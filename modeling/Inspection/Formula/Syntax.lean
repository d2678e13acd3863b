/-!
# Formulas

The tree of a formula, and the forms that a formula's text can write but no formula may hold.
-/

namespace Inspection.Formula

/-- What stands before an operand. -/
inductive Unary
  | plus
  | minus
  | not
deriving Repr, DecidableEq

/-- What stands between two numbers. -/
inductive Arith
  | add
  | sub
  | mul
  | div
  | pow
deriving Repr, DecidableEq

/-- What stands between two compared numbers. -/
inductive Relation
  | eq
  | ne
  | lt
  | le
  | gt
  | ge
deriving Repr, DecidableEq

/-- What stands between conditions. -/
inductive Connective
  | and
  | or
deriving Repr, DecidableEq

/-- A written number. -/
inductive Literal
  | integer (n : Nat)
  | float (x : Float)
deriving DecidableEq

/-- A formula. -/
inductive Expr
  | literal (l : Literal)
  | name (n : String)
  | unary (op : Unary) (operand : Expr)
  | arith (op : Arith) (left right : Expr)
  | compare (first : Expr) (rest : List (Relation × Expr))
  | connect (op : Connective) (operands : List Expr)
  | call (function : String) (args : List Expr)

/-- The name under which the conditional `if(c, t, e)` is called. -/
def choiceName : String := "if"

/-- A form of expression that is no part of a formula. -/
inductive Form
  | member
  | element
  | tuple
  | list
  | set
  | dictionary
  | function
  | conditional
  | assignment
  | listOf
  | setOf
  | dictionaryOf
  | generator
  | formatted
  | await
  | yield
  | yieldFrom
deriving Repr, DecidableEq

/-- The name of a form in messages. -/
def Form.label : Form → String
  | member => "Attribute"
  | element => "Subscript"
  | tuple => "Tuple"
  | list => "List"
  | set => "Set"
  | dictionary => "Dict"
  | function => "Lambda"
  | conditional => "IfExp"
  | assignment => "NamedExpr"
  | listOf => "ListComp"
  | setOf => "SetComp"
  | dictionaryOf => "DictComp"
  | generator => "GeneratorExp"
  | formatted => "JoinedStr"
  | await => "Await"
  | yield => "Yield"
  | yieldFrom => "YieldFrom"

/-- An operator that is no part of a formula. -/
inductive ForeignOperator
  | floorDiv
  | modulo
  | matrixMul
  | shiftLeft
  | shiftRight
  | bitOr
  | bitAnd
  | invert
deriving Repr, DecidableEq

/-- The name of an operator in messages. -/
def ForeignOperator.label : ForeignOperator → String
  | floorDiv => "FloorDiv"
  | modulo => "Mod"
  | matrixMul => "MatMult"
  | shiftLeft => "LShift"
  | shiftRight => "RShift"
  | bitOr => "BitOr"
  | bitAnd => "BitAnd"
  | invert => "Invert"

/-- A comparison that is no part of a formula. -/
inductive ForeignRelation
  | same
  | notSame
  | within
  | notWithin
deriving Repr, DecidableEq

/-- The name of a comparison in messages. -/
def ForeignRelation.label : ForeignRelation → String
  | same => "Is"
  | notSame => "IsNot"
  | within => "In"
  | notWithin => "NotIn"

/-- Why a well-formed expression is no formula. -/
inductive Unsupported
  | form (f : Form)
  | operator (op : ForeignOperator)
  | relation (r : ForeignRelation)
  | literal (shown : String)
  | call
deriving Repr, DecidableEq

/-- The reason in words. -/
def Unsupported.reason : Unsupported → String
  | form f => "Unsupported expression element " ++ f.label
  | operator op => "Unsupported operator " ++ op.label
  | relation r => "Unsupported comparison " ++ r.label
  | literal shown => "Unsupported literal " ++ shown
  | call => "Unsupported function call"

end Inspection.Formula
