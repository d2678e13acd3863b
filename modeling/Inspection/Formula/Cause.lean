import Inspection.Formula.Function
import Inspection.Formula.Syntax

/-!
# Causes of failure

Why a formula cannot be read or evaluated, and the words for it.
-/

namespace Inspection.Formula

/-- Where a number is needed. -/
inductive Role
  | leftOperand
  | rightOperand
  | operand
  | comparisonOperand
  | condition
  | result
deriving Repr, DecidableEq

/-- The name of a role in messages. -/
def Role.label : Role → String
  | leftOperand => "Left operand"
  | rightOperand => "Right operand"
  | operand => "Operand"
  | comparisonOperand => "Comparison operand"
  | condition => "Condition"
  | result => "Expression result"

/-- What makes a formula's text unworkable, so that it is not even a bad formula. -/
inductive Obstacle
  | nullCharacter
  | tooDeep
deriving Repr, DecidableEq

/-- The obstacle in words, where it has any. -/
def Obstacle.message : Obstacle → String
  | nullCharacter => "source code string cannot contain null bytes"
  | tooDeep => ""

/-- Why a formula fails. -/
inductive Cause
  | unworkable (o : Obstacle)
  | empty
  | malformed
  | unsupported (u : Unsupported)
  | unknownName (name : String)
  | notNumeric (name : String)
  | arrayAs (role : Role)
  | divisionByZero
  | overflow
  | notReal
  | notFinite
  | choiceArity (given : Nat)
  | unknownFunction (name : String)
  | badCall (name : String) (misuse : Misuse)
  | noNumber (name : String)
  /-- A reason that is given in words. -/
  | stated (words : String)
deriving Repr, DecidableEq

/-- The cause in words. -/
def Cause.reason : Cause → String
  | unworkable o => o.message
  | empty => "Empty expression"
  | malformed => "Syntax error"
  | unsupported u => u.reason
  | unknownName n => "Unknown identifier '" ++ n ++ "'"
  | notNumeric n => "Identifier '" ++ n ++ "' is not numeric"
  | arrayAs role => role.label ++ " is an array; wrap it in AVG()"
  | divisionByZero => "Division by zero"
  | overflow => "Numeric overflow"
  | notReal => "Result is not a real number"
  | notFinite => "Result is not a finite number"
  | choiceArity given => "if() takes 3 arguments, got " ++ toString given
  | unknownFunction n => "Unknown function '" ++ n ++ "'"
  | badCall n m => "Invalid call to " ++ n ++ "(): " ++ m.message
  | noNumber n => n ++ "() did not return a number"
  | stated words => words

end Inspection.Formula
