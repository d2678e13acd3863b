import Inspection.Decimal.Format
import Inspection.Formula.Lexer
import Inspection.Formula.Spelling
import Inspection.Text.Quoted

/-!
# Grammar

Reads the tokens of an expression. The grammar is wider than that of formulas: where a form is
well-formed but no formula, the result says which, and of several such forms the one that comes
first when operators are looked at before operands and operands from left to right.

From loose to tight: conditionals, `or`, `and`, `not`, comparisons, the binary operators level by
level, signs, powers, calls.
-/

namespace Inspection.Formula

/-- A formula, or the first reason why the expression is none. -/
abbrev Checked := Except Unsupported Expr

namespace Checked

/-- The operand under an operator. -/
def unary (op : Unary) (operand : Checked) : Checked := do
  return .unary op (← operand)

/-- Two operands with an operator between them. -/
def binary (op : ForeignOperator ⊕ Arith) (left right : Checked) : Checked :=
  match op with
  | .inl op => .error (.operator op)
  | .inr op => do
    let left ← left
    let right ← right
    return .arith op left right

/-- Conditions with connectives between them. -/
def connect (op : Connective) (operands : List Checked) : Checked := do
  return .connect op (← operands.mapM id)

/-- The comparisons of a chain, if each is one of formulas. -/
def relations : List (ForeignRelation ⊕ Relation) → Except Unsupported (List Relation)
  | [] => .ok []
  | .inl r :: _ => .error (.relation r)
  | .inr r :: rest => do return r :: (← relations rest)

/-- A chain of comparisons. -/
def compare (first : Checked) (rest : List ((ForeignRelation ⊕ Relation) × Checked)) : Checked := do
  let rs ← relations (rest.map Prod.fst)
  let first ← first
  let operands ← rest.mapM Prod.snd
  return .compare first (rs.zip operands)

/-- A call. Only a name can be called, and only with plain arguments. -/
def call (callee : Checked) (args : List Checked) (named : Bool) : Checked :=
  match callee with
  | .ok (.name f) =>
    if named then .error .call
    else do return .call (if f = choiceCallee then choiceName else f) (← args.mapM id)
  | _ => .error .call

/-- A form that is no part of formulas. -/
def foreign (f : Form) : Checked :=
  .error (.form f)

/-- A value that is no number. -/
def nonNumber (shown : String) : Checked :=
  .error (.literal shown)

end Checked

/-- The binary operator that a symbol is on a level: bits, shifts, sums, products. -/
def binaryOperator? (level : Nat) (s : Symbol) : Option (ForeignOperator ⊕ Arith) :=
  match level, s with
  | 0, .bar => some (.inl .bitOr)
  | 1, .ampersand => some (.inl .bitAnd)
  | 2, .shiftLeft => some (.inl .shiftLeft)
  | 2, .shiftRight => some (.inl .shiftRight)
  | 3, .plus => some (.inr .add)
  | 3, .minus => some (.inr .sub)
  | 4, .star => some (.inr .mul)
  | 4, .slash => some (.inr .div)
  | 4, .floorDiv => some (.inl .floorDiv)
  | 4, .percent => some (.inl .modulo)
  | 4, .at => some (.inl .matrixMul)
  | _, _ => none

/-- The number of levels of binary operators. -/
def binaryLevels : Nat := 5

/-- The comparison at the start of the tokens, and the tokens after it. -/
def relation? : List Token → Option ((ForeignRelation ⊕ Relation) × List Token)
  | .symbol .equal :: ts => some (.inr .eq, ts)
  | .symbol .notEqual :: ts => some (.inr .ne, ts)
  | .symbol .less :: ts => some (.inr .lt, ts)
  | .symbol .lessEqual :: ts => some (.inr .le, ts)
  | .symbol .greater :: ts => some (.inr .gt, ts)
  | .symbol .greaterEqual :: ts => some (.inr .ge, ts)
  | .word "in" :: ts => some (.inl .within, ts)
  | .word "not" :: .word "in" :: ts => some (.inl .notWithin, ts)
  | .word "is" :: .word "not" :: ts => some (.inl .notSame, ts)
  | .word "is" :: ts => some (.inl .same, ts)
  | _ => none

/-- The tokens after the given symbol. -/
def after? (s : Symbol) : List Token → Option (List Token)
  | .symbol t :: ts => if t = s then some ts else none
  | _ => none

/-- The tokens after the given word. -/
def afterWord? (w : String) : List Token → Option (List Token)
  | .word v :: ts => if v = w then some ts else none
  | _ => none

/-- Whether a clause of a comprehension starts here. -/
def startsClause : List Token → Bool
  | .word "for" :: _ => true
  | .word "async" :: _ => true
  | _ => false

/-- The adjacent texts at the start of the tokens, and the tokens after them. -/
def adjacentTexts : List Token → List TextLiteral × List Token
  | .text t :: ts =>
    let (rest, ts) := adjacentTexts ts
    (t :: rest, ts)
  | ts => ([], ts)

/-- Whether the texts have fields. -/
def hasFields (texts : List TextLiteral) : Bool :=
  texts.any fun
    | .formatted .. => true
    | _ => false

/-- The expressions in the fields of formatted texts. -/
def fields (texts : List TextLiteral) : List (List Char) :=
  texts.flatMap fun
    | .formatted fs => fs
    | _ => []

/-- Adjacent texts as one value in the notation of messages. Bytes mix with bytes only. -/
def joinedTexts? (texts : List TextLiteral) : Option Checked :=
  let isBytes : TextLiteral → Bool
    | .bytes _ => true
    | _ => false
  if texts.all isBytes then
    some (.nonNumber (Text.quotedBytes (texts.flatMap fun
      | .bytes ns => ns
      | _ => [])))
  else if texts.any isBytes then none
  else if hasFields texts then some (.foreign .formatted)
  else
    some (.nonNumber (Text.quotedPoints (texts.flatMap fun
      | .characters points => points
      | _ => [])))

/-- An imaginary number in the notation of messages. -/
def imaginaryText (x : Float) : String :=
  { NumberFormat.plain with showsFraction := false }.write x ++ "j"

mutual

/-- An expression: a function, a conditional, or a disjunction. -/
def expression : (fuel : Nat) → List Token → Option (Checked × List Token)
  | 0, _ => none
  | fuel + 1, ts =>
    match ts with
    | .word "lambda" :: ts => do
      let ts ← parameters fuel false false ts
      let (_, ts) ← expression fuel ts
      return (.foreign .function, ts)
    | _ => do
      let (first, rest) ← disjunction fuel ts
      let conditional? : Option (Checked × List Token) := do
        let (_, ts) ← disjunction fuel (← afterWord? "if" rest)
        let (_, ts) ← expression fuel (← afterWord? "else" ts)
        return (.foreign .conditional, ts)
      return conditional?.getD (first, rest)

/-- One condition, or several with `or` between them. -/
def disjunction : (fuel : Nat) → List Token → Option (Checked × List Token)
  | 0, _ => none
  | fuel + 1, ts => do
    let (first, ts) ← conjunction fuel ts
    let (more, ts) ← disjuncts fuel ts
    return (if more.isEmpty then first else .connect .or (first :: more), ts)

/-- The conditions after `or`. -/
def disjuncts : (fuel : Nat) → List Token → Option ((List Checked) × List Token)
  | 0, _ => none
  | fuel + 1, ts =>
    match ts with
    | .word "or" :: ts => do
      let (operand, ts) ← conjunction fuel ts
      let (more, ts) ← disjuncts fuel ts
      return (operand :: more, ts)
    | _ => some ([], ts)

/-- One condition, or several with `and` between them. -/
def conjunction : (fuel : Nat) → List Token → Option (Checked × List Token)
  | 0, _ => none
  | fuel + 1, ts => do
    let (first, ts) ← inversion fuel ts
    let (more, ts) ← conjuncts fuel ts
    return (if more.isEmpty then first else .connect .and (first :: more), ts)

/-- The conditions after `and`. -/
def conjuncts : (fuel : Nat) → List Token → Option ((List Checked) × List Token)
  | 0, _ => none
  | fuel + 1, ts =>
    match ts with
    | .word "and" :: ts => do
      let (operand, ts) ← inversion fuel ts
      let (more, ts) ← conjuncts fuel ts
      return (operand :: more, ts)
    | _ => some ([], ts)

/-- A condition with or without `not`. -/
def inversion : (fuel : Nat) → List Token → Option (Checked × List Token)
  | 0, _ => none
  | fuel + 1, ts =>
    match ts with
    | .word "not" :: ts => (inversion fuel ts).map fun (e, ts) => (.unary .not e, ts)
    | _ => comparison fuel ts

/-- One operand, or a chain of comparisons. -/
def comparison : (fuel : Nat) → List Token → Option (Checked × List Token)
  | 0, _ => none
  | fuel + 1, ts => do
    let (first, ts) ← binary fuel 0 ts
    let (more, ts) ← comparisons fuel ts
    return (if more.isEmpty then first else .compare first more, ts)

/-- The comparisons of a chain with their right operands. -/
def comparisons : (fuel : Nat) → List Token →
    Option ((List ((ForeignRelation ⊕ Relation) × Checked)) × List Token)
  | 0, _ => none
  | fuel + 1, ts =>
    match relation? ts with
    | some (r, ts) => do
      let (operand, ts) ← binary fuel 0 ts
      let (more, ts) ← comparisons fuel ts
      return ((r, operand) :: more, ts)
    | none => some ([], ts)

/-- Operands with the binary operators of a level and tighter ones between them. -/
def binary : (fuel : Nat) → (level : Nat) → List Token → Option (Checked × List Token)
  | 0, _, _ => none
  | fuel + 1, level, ts =>
    if binaryLevels ≤ level then factor fuel ts
    else do
      let (first, ts) ← binary fuel (level + 1) ts
      binaryRest fuel level first ts

/-- The operators of a level after the operand read so far; they group to the left. -/
def binaryRest : (fuel : Nat) → (level : Nat) → Checked → List Token → Option (Checked × List Token)
  | 0, _, _, _ => none
  | fuel + 1, level, left, ts =>
    match ts with
    | .symbol s :: rest =>
      match binaryOperator? level s with
      | some op => do
        let (right, rest) ← binary fuel (level + 1) rest
        binaryRest fuel level (.binary op left right) rest
      | none => some (left, ts)
    | _ => some (left, ts)

/-- An operand with or without signs before it. -/
def factor : (fuel : Nat) → List Token → Option (Checked × List Token)
  | 0, _ => none
  | fuel + 1, ts =>
    match ts with
    | .symbol .plus :: ts => (factor fuel ts).map fun (e, ts) => (.unary .plus e, ts)
    | .symbol .minus :: ts => (factor fuel ts).map fun (e, ts) => (.unary .minus e, ts)
    | .symbol .tilde :: ts => (factor fuel ts).map fun (_, ts) => (.error (.operator .invert), ts)
    | _ => power fuel ts

/-- A base with or without an exponent; the exponent may have signs and exponents of its own. -/
def power : (fuel : Nat) → List Token → Option (Checked × List Token)
  | 0, _ => none
  | fuel + 1, ts => do
    let (base, ts) ← match ts with
      | .word "await" :: ts => (primary fuel ts).map fun (_, ts) => (.foreign .await, ts)
      | _ => primary fuel ts
    match ts with
    | .symbol .power :: ts =>
      let (exponent, ts) ← factor fuel ts
      return (.binary (.inr .pow) base exponent, ts)
    | _ => return (base, ts)

/-- An atom with calls, members and elements after it. -/
def primary : (fuel : Nat) → List Token → Option (Checked × List Token)
  | 0, _ => none
  | fuel + 1, ts => do
    let (value, ts) ← atom fuel ts
    trailers fuel value ts

/-- The calls, members and elements after a value. -/
def trailers : (fuel : Nat) → Checked → List Token → Option (Checked × List Token)
  | 0, _, _ => none
  | fuel + 1, value, ts =>
    match ts with
    | .symbol .dot :: .name _ :: rest => trailers fuel (.foreign .member) rest
    | .symbol .openParen :: rest => do
      let ((args, named), rest) ← arguments fuel true 0 rest
      trailers fuel (.call value args named) rest
    | .symbol .openBracket :: rest => do
      let rest ← slices fuel rest
      trailers fuel (.foreign .element) rest
    | _ => some (value, ts)

/-- The arguments of a call up to the closing parenthesis, and whether some are named. In phase 0
all kinds may follow, in phase 1, after a named one, no plain ones, and in phase 2, after a table of
named ones, no lists of plain ones. A generator has to be the only argument, so only a `sole` one
can be. -/
def arguments : (fuel : Nat) → (sole : Bool) → (phase : Nat) → List Token →
    Option ((List Checked × Bool) × List Token)
  | 0, _, _, _ => none
  | fuel + 1, sole, phase, ts => do
    match ts with
    | .symbol .closeParen :: ts => return (([], false), ts)
    | .symbol .star :: ts =>
      if phase = 2 then none
      else
        let (_, ts) ← expression fuel ts
        let ((args, isNamed), ts) ← furtherArguments fuel phase ts
        return ((.error .call :: args, isNamed), ts)
    | .symbol .power :: ts =>
      let (_, ts) ← expression fuel ts
      let ((args, _), ts) ← furtherArguments fuel 2 ts
      return ((args, true), ts)
    | .name _ :: .symbol .assign :: ts =>
      let (_, ts) ← expression fuel ts
      let ((args, _), ts) ← furtherArguments fuel (max phase 1) ts
      return ((args, true), ts)
    | ts =>
      if phase = 0 then
        let (arg, ts) ← named fuel ts
        if sole && startsClause ts then
          let ts ← clauses fuel ts
          return (([.foreign .generator], false), ← after? .closeParen ts)
        else
          let ((args, isNamed), ts) ← furtherArguments fuel phase ts
          return ((arg :: args, isNamed), ts)
      else none

/-- The arguments after one: a comma and arguments, or the closing parenthesis. -/
def furtherArguments : (fuel : Nat) → (phase : Nat) → List Token →
    Option ((List Checked × Bool) × List Token)
  | 0, _, _ => none
  | fuel + 1, phase, ts =>
    match ts with
    | .symbol .comma :: ts => arguments fuel false phase ts
    | .symbol .closeParen :: ts => some (([], false), ts)
    | _ => none

/-- A name, a number, a text, or something in brackets. -/
def atom : (fuel : Nat) → List Token → Option (Checked × List Token)
  | 0, _ => none
  | fuel + 1, ts =>
    match ts with
    | .word "None" :: ts => some (.nonNumber "None", ts)
    | .word "True" :: ts => some (.nonNumber "True", ts)
    | .word "False" :: ts => some (.nonNumber "False", ts)
    | .name n :: ts => some (.ok (.name n), ts)
    | .number (.real l) :: ts => some (.ok (.literal l), ts)
    | .number (.imaginary x) :: ts => some (.nonNumber (imaginaryText x), ts)
    | .symbol .ellipsis :: ts => some (.nonNumber "Ellipsis", ts)
    | .text _ :: _ => do
      let (texts, ts) := adjacentTexts ts
      let result ← joinedTexts? texts
      if ← fieldsRead fuel (fields texts) then return (result, ts) else none
    | .symbol .openParen :: ts => inParens fuel ts
    | .symbol .openBracket :: ts => inBrackets fuel ts
    | .symbol .openBrace :: ts => inBraces fuel ts
    | _ => none

/-- Whether every field holds an expression. -/
def fieldsRead : (fuel : Nat) → List (List Char) → Option Bool
  | 0, _ => none
  | _ + 1, [] => some true
  | fuel + 1, field :: rest => do
    let ts ← tokens? ('(' :: field ++ [')'])
    let (_, ts) ← inParens fuel (← after? .openParen ts)
    if ts.isEmpty then fieldsRead fuel rest else none

/-- What follows an opening parenthesis: nothing, a generator, a tuple, or one expression. -/
def inParens : (fuel : Nat) → List Token → Option (Checked × List Token)
  | 0, _ => none
  | fuel + 1, ts => do
    match ts with
    | .symbol .closeParen :: ts => return (.foreign .tuple, ts)
    | .word "yield" :: .word "from" :: ts =>
      let (_, ts) ← expression fuel ts
      return (.foreign .yieldFrom, ← after? .closeParen ts)
    | .word "yield" :: .symbol .closeParen :: ts => return (.foreign .yield, ts)
    | .word "yield" :: ts =>
      let ts ← starred fuel ts
      return (.foreign .yield, ← after? .closeParen ts)
    | .symbol .star :: ts =>
      let (_, ts) ← binary fuel 0 ts
      let ts ← after? .comma ts
      return (.foreign .tuple, ← items fuel .closeParen ts)
    | ts =>
      let (value, ts) ← named fuel ts
      match ts with
      | .symbol .closeParen :: ts => return (value, ts)
      | .symbol .comma :: ts => return (.foreign .tuple, ← items fuel .closeParen ts)
      | ts =>
        let ts ← clauses fuel ts
        return (.foreign .generator, ← after? .closeParen ts)

/-- What follows an opening bracket: a comprehension, or items. -/
def inBrackets : (fuel : Nat) → List Token → Option (Checked × List Token)
  | 0, _ => none
  | fuel + 1, ts => do
    match ts with
    | .symbol .closeBracket :: ts => return (.foreign .list, ts)
    | .symbol .star :: _ => return (.foreign .list, ← items fuel .closeBracket ts)
    | _ =>
      let (_, ts) ← named fuel ts
      if startsClause ts then
        let ts ← clauses fuel ts
        return (.foreign .listOf, ← after? .closeBracket ts)
      else return (.foreign .list, ← furtherItems fuel .closeBracket ts)

/-- What follows an opening brace: pairs, items, or a comprehension of either. -/
def inBraces : (fuel : Nat) → List Token → Option (Checked × List Token)
  | 0, _ => none
  | fuel + 1, ts => do
    match ts with
    | .symbol .closeBrace :: ts => return (.foreign .dictionary, ts)
    | .symbol .power :: _ => return (.foreign .dictionary, ← pairs fuel ts)
    | .symbol .star :: _ => return (.foreign .set, ← items fuel .closeBrace ts)
    | _ =>
      let isNamed := match ts with
        | .name _ :: .symbol .walrus :: _ => true
        | _ => false
      let (_, ts) ← named fuel ts
      match if isNamed then none else after? .colon ts with
      | some ts =>
        let (_, ts) ← expression fuel ts
        if startsClause ts then
          let ts ← clauses fuel ts
          return (.foreign .dictionaryOf, ← after? .closeBrace ts)
        else return (.foreign .dictionary, ← furtherPairs fuel ts)
      | none =>
        if startsClause ts then
          let ts ← clauses fuel ts
          return (.foreign .setOf, ← after? .closeBrace ts)
        else return (.foreign .set, ← furtherItems fuel .closeBrace ts)

/-- Expressions with commas between them up to the closing bracket. -/
def items : (fuel : Nat) → (close : Symbol) → List Token → Option (List Token)
  | 0, _, _ => none
  | fuel + 1, close, ts =>
    match after? close ts with
    | some ts => some ts
    | none => do
      let ts ← match ts with
        | .symbol .star :: ts => (binary fuel 0 ts).map Prod.snd
        | _ => (named fuel ts).map Prod.snd
      furtherItems fuel close ts

/-- What follows an item: a comma and items, or the closing bracket. -/
def furtherItems : (fuel : Nat) → (close : Symbol) → List Token → Option (List Token)
  | 0, _, _ => none
  | fuel + 1, close, ts =>
    match ts with
    | .symbol .comma :: ts => items fuel close ts
    | ts => after? close ts

/-- Pairs with commas between them up to the closing brace. -/
def pairs : (fuel : Nat) → List Token → Option (List Token)
  | 0, _ => none
  | fuel + 1, ts =>
    match after? .closeBrace ts with
    | some ts => some ts
    | none => do
      let ts ← match ts with
        | .symbol .power :: ts => (binary fuel 0 ts).map Prod.snd
        | _ => do
          let (_, ts) ← expression fuel ts
          let (_, ts) ← expression fuel (← after? .colon ts)
          some ts
      furtherPairs fuel ts

/-- What follows a pair: a comma and pairs, or the closing brace. -/
def furtherPairs : (fuel : Nat) → List Token → Option (List Token)
  | 0, _ => none
  | fuel + 1, ts =>
    match ts with
    | .symbol .comma :: ts => pairs fuel ts
    | ts => after? .closeBrace ts

/-- One or more expressions, starred ones among them, with commas between them. -/
def starred : (fuel : Nat) → List Token → Option (List Token)
  | 0, _ => none
  | fuel + 1, ts => do
    let ts ← match ts with
      | .symbol .star :: ts => (binary fuel 0 ts).map Prod.snd
      | _ => (expression fuel ts).map Prod.snd
    match ts with
    | .symbol .comma :: rest => some ((starred fuel rest).getD rest)
    | _ => some ts

/-- An expression that may be given a name. -/
def named : (fuel : Nat) → List Token → Option (Checked × List Token)
  | 0, _ => none
  | fuel + 1, ts =>
    match ts with
    | .name _ :: .symbol .walrus :: rest => do
      let (_, rest) ← expression fuel rest
      return (.foreign .assignment, rest)
    | _ => do
      let (value, rest) ← expression fuel ts
      match rest with
      | .symbol .walrus :: _ => none
      | .symbol .assign :: _ => none
      | _ => return (value, rest)

/-- The elements between brackets after a value. -/
def slices : (fuel : Nat) → List Token → Option (List Token)
  | 0, _ => none
  | fuel + 1, ts => do
    let ts ← match ts with
      | .symbol .star :: ts => (expression fuel ts).map Prod.snd
      | _ => slice fuel ts
    match ts with
    | .symbol .closeBracket :: ts => some ts
    | .symbol .comma :: .symbol .closeBracket :: ts => some ts
    | .symbol .comma :: ts => slices fuel ts
    | _ => none

/-- An element or a range of elements. -/
def slice : (fuel : Nat) → List Token → Option (List Token)
  | 0, _ => none
  | fuel + 1, ts =>
    match ts with
    | .name _ :: .symbol .walrus :: _ => (named fuel ts).map Prod.snd
    | _ =>
      let optional (ts : List Token) : List Token := ((expression fuel ts).map Prod.snd).getD ts
      match after? .colon (optional ts) with
      | some ts =>
        let ts := optional ts
        match after? .colon ts with
        | some ts => some (optional ts)
        | none => some ts
      | none =>
        let rest := optional ts
        if rest.length < ts.length then some rest else none

/-- The clauses of a comprehension, at least one. -/
def clauses : (fuel : Nat) → List Token → Option (List Token)
  | 0, _ => none
  | fuel + 1, ts => do
    let ts := (afterWord? "async" ts).getD ts
    let ts ← targets fuel false (← afterWord? "for" ts)
    let (_, ts) ← disjunction fuel (← afterWord? "in" ts)
    let ts ← conditions fuel ts
    if startsClause ts then clauses fuel ts else some ts

/-- The conditions of a clause. -/
def conditions : (fuel : Nat) → List Token → Option (List Token)
  | 0, _ => none
  | fuel + 1, ts =>
    match ts with
    | .word "if" :: ts => do
      let (_, ts) ← disjunction fuel ts
      conditions fuel ts
    | _ => some ts

/-- Targets with commas between them, at least one unless they may be `empty`. -/
def targets : (fuel : Nat) → (empty : Bool) → List Token → Option (List Token)
  | 0, _, _ => none
  | fuel + 1, empty, ts =>
    match starredTarget fuel ts with
    | none => if empty then some ts else none
    | some (.symbol .comma :: ts) => targets fuel true ts
    | some ts => some ts

/-- A target with or without a star. -/
def starredTarget : (fuel : Nat) → List Token → Option (List Token)
  | 0, _ => none
  | fuel + 1, ts =>
    match ts with
    | .symbol .star :: ts => target fuel ts
    | _ => target fuel ts

/-- What a clause can bind: a name, a member or element of a value, or targets in brackets. -/
def target : (fuel : Nat) → List Token → Option (List Token)
  | 0, _ => none
  | fuel + 1, ts =>
    let trailed? : Option (List Token) := do
      let (_, rest) ← atom fuel ts
      targetTrailers fuel false rest
    match trailed?, ts with
    | some found, _ => some found
    | none, .name _ :: ts => some ts
    | none, .symbol .openParen :: ts => targetInParens fuel ts
    | none, .symbol .openBracket :: ts => do after? .closeBracket (← targets fuel true ts)
    | none, _ => none

/-- What follows an opening parenthesis: one target without a star, or targets with commas. -/
def targetInParens : (fuel : Nat) → List Token → Option (List Token)
  | 0, _ => none
  | fuel + 1, ts =>
    match ts with
    | .symbol .closeParen :: ts => some ts
    | _ =>
      match (target fuel ts).bind (after? .closeParen) with
      | some ts => some ts
      | none => do
        let ts ← after? .comma (← starredTarget fuel ts)
        after? .closeParen (← targets fuel true ts)

/-- Calls, members and elements after a value, the last of them a member or an element. -/
def targetTrailers : (fuel : Nat) → (bindable : Bool) → List Token → Option (List Token)
  | 0, _, _ => none
  | fuel + 1, bindable, ts =>
    match ts with
    | .symbol .dot :: .name _ :: rest => targetTrailers fuel true rest
    | .symbol .openParen :: rest => do
      let (_, rest) ← arguments fuel true 0 rest
      targetTrailers fuel false rest
    | .symbol .openBracket :: rest => do
      let rest ← slices fuel rest
      targetTrailers fuel true rest
    | _ => if bindable then some ts else none

/-- The parameters of a function up to the colon. After a parameter with a default, none may lack
one, until a star parts those that can only be named. -/
def parameters : (fuel : Nat) → (defaults : Bool) → (slashed : Bool) → List Token →
    Option (List Token)
  | 0, _, _, _ => none
  | fuel + 1, defaults, slashed, ts =>
    match ts with
    | .symbol .colon :: ts => some ts
    | .symbol .power :: .name _ :: .symbol .comma :: .symbol .colon :: ts => some ts
    | .symbol .power :: .name _ :: ts => after? .colon ts
    | .symbol .star :: .name _ :: .symbol .colon :: ts => some ts
    | .symbol .star :: .name _ :: .symbol .comma :: ts => namedParameters fuel ts
    | .symbol .star :: .symbol .comma :: .name n :: ts => namedParameters fuel (.name n :: ts)
    | .name _ :: ts => do
      let (hasDefault, ts) ← match ts with
        | .symbol .assign :: ts => (expression fuel ts).map fun (_, ts) => (true, ts)
        | _ => some (false, ts)
      if defaults && !hasDefault then none
      else
        match ts with
        | .symbol .colon :: ts => some ts
        | .symbol .comma :: .symbol .slash :: ts =>
          if slashed then none
          else
            match ts with
            | .symbol .colon :: ts => some ts
            | .symbol .comma :: ts => parameters fuel hasDefault true ts
            | _ => none
        | .symbol .comma :: ts => parameters fuel hasDefault slashed ts
        | _ => none
    | _ => none

/-- The parameters that can only be named, up to the colon. -/
def namedParameters : (fuel : Nat) → List Token → Option (List Token)
  | 0, _ => none
  | fuel + 1, ts =>
    match ts with
    | .symbol .colon :: ts => some ts
    | .symbol .power :: .name _ :: .symbol .comma :: .symbol .colon :: ts => some ts
    | .symbol .power :: .name _ :: ts => after? .colon ts
    | .name _ :: ts => do
      let ts ← match ts with
        | .symbol .assign :: ts => (expression fuel ts).map Prod.snd
        | _ => some ts
      match ts with
      | .symbol .colon :: ts => some ts
      | .symbol .comma :: ts => namedParameters fuel ts
      | _ => none
    | _ => none

end

/-- Whether only line ends are left. -/
def isEnd (ts : List Token) : Bool :=
  ts.all (· = .line)

/-- The expressions of a whole text after the first: a tuple. -/
def furtherExpressions : (fuel : Nat) → List Token → Option (List Token)
  | 0, _ => none
  | fuel + 1, ts =>
    match ts with
    | .symbol .comma :: rest =>
      match expression (fuel + 1) rest with
      | some (_, rest) => furtherExpressions fuel rest
      | none => some rest
    | _ => some ts

/-- Reads a whole list of tokens; the fuel bounds how deep they nest. -/
def checkedOfTokens? (fuel : Nat) (ts : List Token) : Option Checked := do
  let (value, rest) ← expression fuel ts
  match rest with
  | .symbol .comma :: _ =>
    let rest ← furtherExpressions fuel rest
    if isEnd rest then return .foreign .tuple else none
  | _ => if isEnd rest then return value else none

end Inspection.Formula
