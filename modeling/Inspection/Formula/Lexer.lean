import Inspection.Formula.Quotation
import Inspection.Formula.Numeral
import Inspection.Text.Identifier
import Inspection.Text.Compatibility

/-!
# Lexer

An expression's text as tokens. Blanks, comments, and line ends inside brackets only part tokens; a
line outside brackets must not be indented.
-/

namespace Inspection.Formula

/-- Every way to end a line as a line feed. -/
def unifyLines : List Char → List Char
  | '\r' :: '\n' :: cs => '\n' :: unifyLines cs
  | '\r' :: cs => '\n' :: unifyLines cs
  | c :: cs => c :: unifyLines cs
  | [] => []

/-- A gap between tokens of one line. -/
def isSpace (c : Char) : Bool :=
  c = ' ' || c = '\t' || c = '\x0c'

/-- The punctuation at the start of a text, and the text after it: the longest that fits. -/
def readSymbol : List Char → Option (Symbol × List Char)
  | '*' :: '*' :: '=' :: cs => some (.statement, cs)
  | '/' :: '/' :: '=' :: cs => some (.statement, cs)
  | '<' :: '<' :: '=' :: cs => some (.statement, cs)
  | '>' :: '>' :: '=' :: cs => some (.statement, cs)
  | '.' :: '.' :: '.' :: cs => some (.ellipsis, cs)
  | '*' :: '*' :: cs => some (.power, cs)
  | '/' :: '/' :: cs => some (.floorDiv, cs)
  | '<' :: '<' :: cs => some (.shiftLeft, cs)
  | '>' :: '>' :: cs => some (.shiftRight, cs)
  | '<' :: '=' :: cs => some (.lessEqual, cs)
  | '>' :: '=' :: cs => some (.greaterEqual, cs)
  | '=' :: '=' :: cs => some (.equal, cs)
  | '!' :: '=' :: cs => some (.notEqual, cs)
  | ':' :: '=' :: cs => some (.walrus, cs)
  | '<' :: '>' :: cs => some (.statement, cs)
  | '-' :: '>' :: cs => some (.statement, cs)
  | '+' :: '=' :: cs => some (.statement, cs)
  | '-' :: '=' :: cs => some (.statement, cs)
  | '*' :: '=' :: cs => some (.statement, cs)
  | '/' :: '=' :: cs => some (.statement, cs)
  | '%' :: '=' :: cs => some (.statement, cs)
  | '@' :: '=' :: cs => some (.statement, cs)
  | '&' :: '=' :: cs => some (.statement, cs)
  | '|' :: '=' :: cs => some (.statement, cs)
  | '+' :: cs => some (.plus, cs)
  | '-' :: cs => some (.minus, cs)
  | '*' :: cs => some (.star, cs)
  | '/' :: cs => some (.slash, cs)
  | '%' :: cs => some (.percent, cs)
  | '@' :: cs => some (.at, cs)
  | '&' :: cs => some (.ampersand, cs)
  | '|' :: cs => some (.bar, cs)
  | '~' :: cs => some (.tilde, cs)
  | '<' :: cs => some (.less, cs)
  | '>' :: cs => some (.greater, cs)
  | '(' :: cs => some (.openParen, cs)
  | ')' :: cs => some (.closeParen, cs)
  | '[' :: cs => some (.openBracket, cs)
  | ']' :: cs => some (.closeBracket, cs)
  | '\x7b' :: cs => some (.openBrace, cs)
  | '\x7d' :: cs => some (.closeBrace, cs)
  | ',' :: cs => some (.comma, cs)
  | ':' :: cs => some (.colon, cs)
  | '.' :: cs => some (.dot, cs)
  | '=' :: cs => some (.assign, cs)
  | ';' :: cs => some (.statement, cs)
  | _ => none

/-- Whether the punctuation opens a bracket. -/
def Symbol.opens : Symbol → Bool
  | openParen | openBracket | openBrace => true
  | _ => false

/-- Whether the punctuation closes a bracket. -/
def Symbol.closes : Symbol → Bool
  | closeParen | closeBracket | closeBrace => true
  | _ => false

/-- The text after a backslash that ends a line; more text has to follow. -/
def continued? : List Char → Option (List Char)
  | '\n' :: c :: cs => some (c :: cs)
  | _ => none

/-- The indentation of a line, and the text after it. Where backslashes split the indentation, the
first of them that has blanks before it counts. -/
def indentation : (fuel : Nat) → (width fixed : Nat) → List Char → Option (Nat × List Char)
  | fuel + 1, width, fixed, c :: cs =>
    if c = ' ' ∨ c = '\t' then indentation fuel (width + 1) fixed cs
    else if c = '\x0c' then indentation fuel 0 fixed cs
    else if c = '\\' then do
      indentation fuel width (if fixed = 0 then width else fixed) (← continued? cs)
    else some (if fixed = 0 then width else fixed, c :: cs)
  | _, width, fixed, cs => some (if fixed = 0 then width else fixed, cs)

/-- A name, a reserved word or a marked text at the start of the text, and the text after it. -/
def readWord (cs : List Char) : Option (Token × List Char) :=
  let word := cs.takeWhile looksLikeName
  let rest := cs.dropWhile looksLikeName
  let quoted := match rest with
    | c :: _ => c = '"' || c = '\''
    | [] => false
  match if quoted then marks? word else none with
  | some m => do
    let (body, rest) ← quotation? rest
    let t ← textLiteral? m body
    return (.text t, rest)
  | none =>
    if reservedWords.contains (String.ofList word) then some (.word (String.ofList word), rest)
    else if Text.isIdentifier word then some (.name (String.ofList (Text.compatible word)), rest)
    else none

/-- A token at the start of the text, other than punctuation, and the text after it. -/
def readToken (cs : List Char) : Option (Token × List Char) :=
  match cs with
  | [] => none
  | c :: rest =>
    let startsFraction := match rest with
      | d :: _ => c = '.' && d.isDigit
      | [] => false
    if c.isDigit || startsFraction then (readNumeral cs).map fun (n, rest) => (.number n, rest)
    else if looksLikeName c then readWord cs
    else if c = '"' || c = '\'' then do
      let (body, rest) ← quotation? cs
      let t ← textLiteral? ⟨false, false, false⟩ body
      return (.text t, rest)
    else none

/-- The tokens of a text at some bracket depth; `fresh` at the start of a line. -/
def lex : (fuel : Nat) → (depth : Nat) → (fresh : Bool) → List Char → Option (List Token)
  | 0, _, _, _ => none
  | fuel + 1, depth, true, cs =>
    match indentation (cs.length + 1) 0 0 cs with
    | none => none
    | some (_, []) => lex fuel depth false []
    | some (width, c :: rest) =>
      if c = '\n' then lex fuel depth true rest
      else if c = '#' then lex fuel depth true ((rest.dropWhile (· ≠ '\n')).drop 1)
      else if depth = 0 ∧ width ≠ 0 then none
      else lex fuel depth false (c :: rest)
  | _ + 1, depth, false, [] => if depth = 0 then some [] else none
  | fuel + 1, depth, false, c :: rest =>
    if isSpace c then lex fuel depth false rest
    else if c = '#' then lex fuel depth false (rest.dropWhile (· ≠ '\n'))
    else if c = '\n' then
      if depth = 0 then (lex fuel depth true rest).map (.line :: ·) else lex fuel depth true rest
    else if c = '\\' then
      match continued? rest with
      | some rest => lex fuel depth false rest
      | none => none
    else
      match readToken (c :: rest) with
      | some (t, rest) => (lex fuel depth false rest).map (t :: ·)
      | none =>
        match readSymbol (c :: rest) with
        | none => none
        | some (s, rest) =>
          if s.closes && depth = 0 || s.opens && depth = maxDepth then none
          else
            let depth := if s.opens then depth + 1 else if s.closes then depth - 1 else depth
            (lex fuel depth false rest).map (.symbol s :: ·)

/-- The tokens of a text. -/
def tokens? (cs : List Char) : Option (List Token) :=
  let cs := unifyLines cs
  lex (2 * cs.length + 2) 0 true cs

end Inspection.Formula
