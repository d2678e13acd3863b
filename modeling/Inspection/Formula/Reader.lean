import Inspection.Formula.Cause
import Inspection.Formula.Grammar

/-!
# Reading formulas

The formula that a text writes, or why it writes none. How deep the operators and calls of a formula
nest is limited. Terms in a row nest too, since each operator takes all that is left of it as its
operand.
-/

namespace Inspection.Formula

mutual

/-- How deep a formula nests; a number or name by itself has depth one. -/
def Expr.depth : Expr → Nat
  | .literal _ | .name _ => 1
  | .unary _ e => e.depth + 1
  | .arith _ a b => max a.depth b.depth + 1
  | .compare first rest => max first.depth (depthOfRelated rest) + 1
  | .connect _ operands => depthOfAll operands + 1
  | .call _ args => depthOfAll args + 1

/-- The depth of the deepest of some formulas. -/
def depthOfAll : List Expr → Nat
  | [] => 0
  | e :: rest => max e.depth (depthOfAll rest)

/-- The depth of the deepest of some compared operands. -/
def depthOfRelated : List (Relation × Expr) → Nat
  | [] => 0
  | (_, e) :: rest => max e.depth (depthOfRelated rest)

end

/-- The greatest depth of a formula that can be worked with. -/
def maxNesting : Nat := 990

/-- The expression that a text in the notation of the grammar writes. Nothing nests deeper than the
text is long, and no nesting takes more than 24 steps. -/
def checked? (cs : List Char) : Option Checked := do
  checkedOfTokens? (24 * (cs.length + 2)) (← tokens? cs)

/-- Reads a formula. -/
def parse (text : String) : Except Cause Expr :=
  if text.toList.all Text.isBlank then .error .empty
  else
    let spelled := respelled text.toList
    if spelled.contains '\x00' then .error (.unworkable .nullCharacter)
    else
      match checked? spelled with
      | none => .error .malformed
      | some (.error u) => .error (.unsupported u)
      | some (.ok e) => if maxNesting < e.depth then .error (.unworkable .tooDeep) else .ok e

end Inspection.Formula
