import Inspection.Formula.Syntax

/-!
# Tokens

The words of an expression's text.
-/

namespace Inspection.Formula

/-- Punctuation. -/
inductive Symbol
  | plus
  | minus
  | star
  | slash
  | power
  | floorDiv
  | percent
  | at
  | shiftLeft
  | shiftRight
  | ampersand
  | bar
  | tilde
  | less
  | greater
  | lessEqual
  | greaterEqual
  | equal
  | notEqual
  | openParen
  | closeParen
  | openBracket
  | closeBracket
  | openBrace
  | closeBrace
  | comma
  | colon
  | walrus
  | dot
  | ellipsis
  | assign
  /-- Punctuation of statements, which no expression holds. -/
  | statement
deriving Repr, DecidableEq

/-- A written number, imaginary ones included. -/
inductive Numeral
  | real (l : Literal)
  | imaginary (x : Float)
deriving DecidableEq

/-- A written text. -/
inductive TextLiteral
  /-- A text by its code points, of which escapes can write any. -/
  | characters (points : List Nat)
  | bytes (ns : List Nat)
  /-- A text with fields to be filled in, each with an expression. -/
  | formatted (fields : List (List Char))
deriving DecidableEq

/-- A word of an expression's text. A word that the language keeps for itself is one only in its own
letters; written in others that are compatible with them it is a name. -/
inductive Token
  | name (n : String)
  | word (w : String)
  | number (n : Numeral)
  | text (t : TextLiteral)
  | symbol (s : Symbol)
  /-- The end of a line outside brackets. -/
  | line
deriving DecidableEq

/-- The words that the language keeps for itself. -/
def reservedWords : List String :=
  ["False", "None", "True", "and", "as", "assert", "async", "await", "break", "class", "continue",
    "def", "del", "elif", "else", "except", "finally", "for", "from", "global", "if", "import",
    "in", "is", "lambda", "nonlocal", "not", "or", "pass", "raise", "return", "try", "while", "with",
    "yield"]

end Inspection.Formula
