import Inspection.Formula.Spelling
import Inspection.Formula.Token
import Inspection.Proofs.Decimal.Written

/-!
# Writing formulas

How a formula is written: as pieces (`Expr.pieces`), with no more parentheses than the levels of its
operators ask for, and each negation in parentheses. Spaces may stand around every piece
(`Spelling.Writes`). A number has many spellings; the other pieces have one, which depends on how
far the text is respelled for the grammar. What can be written so is `Expr.Writable`.
-/

namespace Inspection.Formula

/-- A part of a written formula that spaces may stand around. -/
inductive Piece
  | name (n : String)
  | number (l : Literal)
  /-- The name of the conditional, with the parenthesis that opens its arguments. -/
  | choice
  | unary (op : Unary)
  | arith (op : Arith)
  | relation (r : Relation)
  | connective (op : Connective)
  | opening
  | closing
  | comma

/-- How tight a connective binds. -/
def Connective.level : Connective → Nat
  | or => 1
  | and => 2

/-- How tight the operand of a negation has to bind. -/
def notLevel : Nat := 3

/-- How tight a chain of comparisons binds. -/
def compareLevel : Nat := 4

/-- How tight an operator between numbers binds. -/
def Arith.level : Arith → Nat
  | add | sub => 5
  | mul | div => 6
  | pow => 8

/-- How tight a sign binds. -/
def signLevel : Nat := 7

/-- How tight words bind, and what is in parentheses. -/
def atomLevel : Nat := 9

/-- How tight the left operand has to bind: operators group to the left, powers do not. -/
def Arith.leftLevel : Arith → Nat
  | pow => atomLevel
  | op => op.level

/-- How tight the right operand has to bind: tighter than the operator, but an exponent may have a
sign. -/
def Arith.rightLevel : Arith → Nat
  | pow => signLevel
  | op => op.level + 1

/-- How tight a formula binds. -/
def Expr.level : Expr → Nat
  | .literal _ | .name _ | .call .. | .unary .not _ => atomLevel
  | .unary _ _ => signLevel
  | .arith op _ _ => op.level
  | .compare .. => compareLevel
  | .connect op _ => op.level

/-- Pieces in parentheses, unless they bind as tight as is needed. -/
def enclose (needed level : Nat) (ps : List Piece) : List Piece :=
  if level < needed then .opening :: ps ++ [.closing] else ps

/-- The start of a call. -/
def callee (f : String) : List Piece :=
  if f = choiceName then [.choice] else [.name f, .opening]

mutual

/-- A formula as pieces. -/
def Expr.pieces : Expr → List Piece
  | .literal l => [.number l]
  | .name n => [.name n]
  | .unary .not e =>
    .opening :: .unary .not :: enclose notLevel e.level e.pieces ++ [.closing]
  | .unary .plus e => .unary .plus :: enclose signLevel e.level e.pieces
  | .unary .minus e => .unary .minus :: enclose signLevel e.level e.pieces
  | .arith op a b =>
    enclose op.leftLevel a.level a.pieces ++
      .arith op :: enclose op.rightLevel b.level b.pieces
  | .compare first rest =>
    enclose (compareLevel + 1) first.level first.pieces ++ furtherRelated rest
  | .connect op operands => listed (.connective op) (op.level + 1) operands
  | .call f args => callee f ++ listed .comma 0 args ++ [.closing]

/-- Formulas as pieces, with a piece between any two. -/
def listed (between : Piece) (needed : Nat) : List Expr → List Piece
  | [] => []
  | e :: rest => enclose needed e.level e.pieces ++ further between needed rest

/-- Formulas as pieces, with a piece before each. -/
def further (between : Piece) (needed : Nat) : List Expr → List Piece
  | [] => []
  | e :: rest => between :: enclose needed e.level e.pieces ++ further between needed rest

/-- Compared operands as pieces. -/
def furtherRelated : List (Relation × Expr) → List Piece
  | [] => []
  | (r, e) :: rest =>
    .relation r :: enclose (compareLevel + 1) e.level e.pieces ++ furtherRelated rest

end

/-- How many parentheses are open after a piece. -/
def Piece.depthAfter (d : Nat) : Piece → Nat
  | choice | opening => d + 1
  | closing => d - 1
  | _ => d

/-- How many parentheses are open at once at most. -/
def openAtOnce (d : Nat) : List Piece → Nat
  | [] => d
  | p :: ps => max d (openAtOnce (p.depthAfter d) ps)

/-- The spellings of a sign; that of a plus may be left out. -/
inductive SignSpelled : (negative : Bool) → List Char → Prop
  | bare : SignSpelled false []
  | plus : SignSpelled false ['+']
  | minus : SignSpelled true ['-']

/-- The spellings of an exponent by its sign and digits. -/
inductive ExponentSpelled : Option (Bool × List Char) → List Char → Prop
  | absent : ExponentSpelled none []
  | present {negative : Bool} {sign digits : List Char} :
    SignSpelled negative sign →
    ExponentSpelled (some (negative, digits)) ('e' :: sign ++ digits)

/-- The digits of a number before and after the point. -/
def decimalDigits (p : NumberFormat.Parts) : List Char :=
  p.whole ++ if p.fraction.isEmpty then [] else '.' :: p.fraction

/-- The spellings of a number: a whole one in base ten, if it has no more digits than are read, or
else in base sixteen, and any other one as a decimal fraction. -/
inductive Literal.Spelled : Literal → List Char → Prop
  | decimal {n : Nat} :
    Decimal.digitCount n ≤ Decimal.maxIntegerDigits →
    Spelled (.integer n) (Nat.toDigits 10 n)
  | hexadecimal {n : Nat} :
    Spelled (.integer n) ('0' :: 'x' :: Nat.toDigits 16 n)
  | fraction {p : NumberFormat.Parts} {exponent : List Char} :
    p.Proper →
    ExponentSpelled p.exponent exponent →
    Spelled (.float p.decimal.toFloat) (decimalDigits p ++ exponent)

/-- A name in ASCII that nothing else is written as. -/
structure PlainName (n : String) : Prop where
  ascii : ∀ c ∈ n.toList, c.toNat < 128
  identifier : Text.isIdentifier n.toList
  free : n ∉ reservedWords
  other : n ≠ choiceCallee

/-- The comparisons in the text of a formula. -/
def Relation.mark : Relation → List Char
  | eq => ['=', '=']
  | ne => ['!', '=']
  | lt => ['<']
  | le => ['<', '=']
  | gt => ['>']
  | ge => ['>', '=']

/-- How a text is spelled: as formulas are, with its operators respelled, or as the grammar reads
it. -/
inductive Spelling
  | formula
  | operators
  | grammar
deriving DecidableEq

namespace Spelling

/-- The text of a piece that is always written alike. -/
def mark? (s : Spelling) : Piece → Option (List Char)
  | .name _ | .number _ | .choice => none
  | .unary .plus | .arith .add => some ['+']
  | .unary .minus | .arith .sub => some ['-']
  | .unary .not => some (if s = formula then ['!'] else [' ', 'n', 'o', 't', ' '])
  | .arith .mul => some ['*']
  | .arith .div => some ['/']
  | .arith .pow => some (if s = formula then ['^'] else ['*', '*'])
  | .relation r => some r.mark
  | .connective .and => some (if s = formula then ['&', '&'] else [' ', 'a', 'n', 'd', ' '])
  | .connective .or => some (if s = formula then ['|', '|'] else [' ', 'o', 'r', ' '])
  | .opening => some ['(']
  | .closing => some [')']
  | .comma => some [',']

/-- The texts of a piece. Spaces may part the name of the conditional from its parenthesis. -/
inductive Spells (s : Spelling) : Piece → List Char → Prop
  | name {n : String} :
    PlainName n →
    Spells s (.name n) n.toList
  | number {l : Literal} {t : List Char} :
    l.Spelled t →
    Spells s (.number l) t
  | choice {gap : Nat} :
    s ≠ grammar →
    Spells s .choice ('i' :: 'f' :: List.replicate gap ' ' ++ ['('])
  | callee :
    s = grammar →
    Spells s .choice (choiceCallee.toList ++ ['('])
  | mark {p : Piece} {t : List Char} :
    s.mark? p = some t →
    Spells s p t

/-- The texts of pieces one after the other, with spaces anywhere around them. -/
inductive Writes (s : Spelling) : List Piece → List Char → Prop
  | done : Writes s [] []
  | gap {ps : List Piece} {cs : List Char} :
    Writes s ps cs →
    Writes s ps (' ' :: cs)
  | piece {p : Piece} {ps : List Piece} {t cs : List Char} :
    s.Spells p t →
    Writes s ps cs →
    Writes s (p :: ps) (t ++ cs)

end Spelling

/-- A formula that can be written: its numbers are finite and not negative, its names plain, chains
of comparisons compare something, and connectives have operands on both sides. -/
inductive Expr.Writable : Expr → Prop
  | integer {n : Nat} :
    Writable (.literal (.integer n))
  | float {x : Float} :
    x.isFinite →
    (Binary.ofFloat x).negative = false →
    Writable (.literal (.float x))
  | name {n : String} :
    PlainName n →
    Writable (.name n)
  | unary {op : Unary} {e : Expr} :
    e.Writable →
    Writable (.unary op e)
  | arith {op : Arith} {a b : Expr} :
    a.Writable →
    b.Writable →
    Writable (.arith op a b)
  | compare {first : Expr} {rest : List (Relation × Expr)} :
    first.Writable →
    rest ≠ [] →
    (∀ x ∈ rest, x.2.Writable) →
    Writable (.compare first rest)
  | connect {op : Connective} {operands : List Expr} :
    2 ≤ operands.length →
    (∀ e ∈ operands, e.Writable) →
    Writable (.connect op operands)
  | call {f : String} {args : List Expr} :
    f = choiceName ∨ PlainName f →
    (∀ e ∈ args, e.Writable) →
    Writable (.call f args)

end Inspection.Formula
