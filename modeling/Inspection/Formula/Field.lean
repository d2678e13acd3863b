import Inspection.Formula.Escape
import Inspection.Formula.Token

/-!
# Fields of formatted texts

A formatted text has fields between braces: an expression, and after a colon a format, which may
have fields of its own. Doubled braces outside formats stand for braces. What stands between the
fields is ordinary text with escapes.
-/

namespace Inspection.Formula

/-- How many brackets may be open at once. -/
def maxDepth : Nat := 200

/-- How far the text of a field goes: the brackets to be closed, and the quotes to be met: one, or
three of a kind. -/
structure FieldState where
  closers : List Char
  quotes : List Char

/-- The bracket that closes one that the character opens. -/
def closer? (c : Char) : Option Char :=
  [('(', ')'), ('[', ']'), ('\x7b', '\x7d')].lookup c

/-- Whether the character closes a bracket. -/
def isCloser (c : Char) : Bool :=
  c = ')' || c = ']' || c = '\x7d'

/-- The quotes that the character opens before the given text: three if it is met there twice
more. -/
def openedQuotes (c : Char) (cs : List Char) : List Char :=
  if cs.take 2 = [c, c] then [c, c, c] else [c]

/-- The text of a field up to the mark that ends it, and the text from that mark on. Characters that
are yet to be passed over belong to quotes or to an operator. -/
def fieldText : List Char → (passed : Nat) → FieldState → Option (List Char × List Char)
  | [], _, _ => none
  | c :: cs, passed, s =>
    let more (passed : Nat) (s : FieldState) :=
      (fieldText cs passed s).map fun (e, rest) => (c :: e, rest)
    if 0 < passed then more (passed - 1) s
    else if c = '\\' then none
    else match s.quotes with
      | q :: qs =>
        if c = q ∧ cs.take qs.length = qs then more qs.length { s with quotes := [] } else more 0 s
      | [] =>
        if c = '\'' ∨ c = '"' then
          more ((openedQuotes c cs).length - 1) { s with quotes := openedQuotes c cs }
        else if c = '#' then none
        else match closer? c, s.closers with
          | some closer, closers =>
            if maxDepth ≤ closers.length then none
            else more 0 { s with closers := closer :: closers }
          | none, closer :: outer =>
            if c = closer then more 0 { s with closers := outer }
            else if isCloser c then none
            else more 0 s
          | none, [] =>
            if (c = '!' ∨ c = '=' ∨ c = '<' ∨ c = '>') ∧ cs.head? = some '=' then more 1 s
            else if c = '!' ∨ c = ':' ∨ c = '\x7d' ∨ c = '=' then some ([], c :: cs)
            else if isCloser c then none
            else more 0 s

/-- The ordinary text before the next brace that stands for itself, and the text from that brace on.
Inside a format no braces are doubled, and the name of a character has braces of its own. -/
def plainText (raw nested : Bool) : (inName : Bool) → List Char → Option (List Char × List Char)
  | _, [] => some ([], [])
  | inName, c :: cs =>
    let more (inName : Bool) := (plainText raw nested inName cs).map fun (t, rest) => (c :: t, rest)
    if inName then more (c ≠ '\x7d')
    else if c = '\\' ∧ !raw then
      match cs with
      | 'N' :: '\x7b' :: rest =>
        (plainText raw nested true rest).map fun (t, rest) => (c :: 'N' :: '\x7b' :: t, rest)
      | d :: rest =>
        if d = '\x7b' ∨ d = '\x7d' then more false
        else (plainText raw nested false rest).map fun (t, rest) => (c :: d :: t, rest)
      | [] => more false
    else if c = '\x7b' ∨ c = '\x7d' then
      match cs with
      | d :: rest =>
        if !nested ∧ d = c then
          (plainText raw nested false rest).map fun (t, rest) => (c :: t, rest)
        else if !nested ∧ c = '\x7d' then none
        else some ([], c :: cs)
      | [] => if !nested ∧ c = '\x7d' then none else some ([], c :: cs)
    else more false

/-- A gap that may follow the equals sign of a field. -/
def isGap (c : Char) : Bool :=
  c = ' ' || ('\t' ≤ c && c ≤ '\r')

/-- The expressions in the fields of a text up to its end, or up to the brace that closes the format
it stands in; and the text from there on. -/
def fieldTexts (raw : Bool) : (fuel : Nat) → (nesting : Nat) → List Char →
    Option (List (List Char) × List Char)
  | 0, _, _ => none
  | fuel + 1, nesting, cs => do
    let (plain, rest) ← plainText raw (0 < nesting) false cs
    if !raw && (unescape true plain.length plain).isNone then none
    else
      match rest with
      | '\x7b' :: rest =>
        if 2 ≤ nesting then none
        else
          let (expression, rest) ← fieldText rest 0 ⟨[], []⟩
          if expression.all isGap then none
          else
            let rest := match rest with
              | '=' :: rest => rest.dropWhile isGap
              | rest => rest
            match rest with
            | '\x7d' :: rest =>
              let (more, rest) ← fieldTexts raw fuel nesting rest
              return (expression :: more, rest)
            | ':' :: rest =>
              let (inner, rest) ← fieldTexts raw fuel (nesting + 1) rest
              let (more, rest) ← fieldTexts raw fuel nesting (rest.drop 1)
              return (expression :: inner ++ more, rest)
            | _ => none
      | '\x7d' :: _ => some ([], rest)
      | _ => if nesting = 0 then some ([], []) else none

/-- The expressions in the fields of a formatted text. -/
def fieldTexts? (raw : Bool) (body : List Char) : Option (List (List Char)) :=
  (fieldTexts raw (body.length + 1) 0 body).map Prod.fst

end Inspection.Formula
