import Inspection.Text.Blank
import Inspection.Text.Identifier

/-!
# Spelling of operators

The operators that formulas spell in their own way, in the spelling that the grammar reads: `^` as
`**`, `&&`, `||` and `!` as words, and `if(` as a call of a name of its own. This goes by the text
alone and knows nothing about quotes or comments.
-/

namespace Inspection.Formula

/-- The name that stands for the conditional in the grammar. -/
def choiceCallee : String := "__if__"

/-- Respells the operators. An exclamation mark is an operator unless an equals sign follows. -/
def respellOperators : List Char → List Char
  | [] => []
  | '^' :: cs => '*' :: '*' :: respellOperators cs
  | '&' :: '&' :: cs => " and ".toList ++ respellOperators cs
  | '|' :: '|' :: cs => " or ".toList ++ respellOperators cs
  | '!' :: '=' :: cs => '!' :: '=' :: respellOperators cs
  | '!' :: cs => " not ".toList ++ respellOperators cs
  | c :: cs => c :: respellOperators cs

/-- The text after an opening parenthesis that follows `if` and blanks. -/
def afterChoice? : List Char → Option (List Char)
  | 'i' :: 'f' :: cs =>
    match Text.trimLeft cs with
    | '(' :: rest => some rest
    | _ => none
  | _ => none

/-- Respells `if(` where `if` is a whole word; `inWord` tells whether the character before belongs
to a word. -/
def respellChoice : (fuel : Nat) → (inWord : Bool) → List Char → List Char
  | fuel + 1, inWord, c :: cs =>
    match if inWord then none else afterChoice? (c :: cs) with
    | some rest => choiceCallee.toList ++ '(' :: respellChoice fuel false rest
    | none => c :: respellChoice fuel (Text.isWordPart c) cs
  | _, _, _ => []

/-- The text of a formula in the spelling of the grammar. -/
def respelled (cs : List Char) : List Char :=
  let operators := respellOperators (Text.trim cs)
  respellChoice operators.length false operators

end Inspection.Formula
