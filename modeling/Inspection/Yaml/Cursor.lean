import Inspection.Yaml.Problem

/-!
# Places in a text

A place in a text: what is left to read, and the line and the column that it is in. A mark at the
very start that only tells the order of bytes takes no column.
-/

namespace Inspection.Yaml

/-- Whether a character ends a line. -/
def isBreak (c : Char) : Bool :=
  c = '\n' || c = '\r' || c = '\u0085' || c = '\u2028' || c = '\u2029'

/-- Whether a line ends here, or the text. -/
def endsLine : Option Char → Bool
  | none => true
  | some c => isBreak c

/-- Whether a word ends here: before a gap, a line end or the end of the text. -/
def endsWord : Option Char → Bool
  | none => true
  | some c => c = ' ' || c = '\t' || isBreak c

/-- A place in a text. -/
structure Cursor where
  rest : List Char
  index : Nat := 0
  line : Nat := 0
  column : Nat := 0

namespace Cursor

/-- The character here. -/
def peek (c : Cursor) : Option Char :=
  c.rest.head?

/-- The character some places further on. -/
def ahead (c : Cursor) (n : Nat) : Option Char :=
  c.rest[n]?

/-- Whether the character here is a certain one. -/
def isAt (c : Cursor) (x : Char) : Bool :=
  c.peek = some x

/-- Whether the character here has a property. -/
def sees (c : Cursor) (p : Char → Bool) : Bool :=
  match c.peek with
  | some x => p x
  | none => false

/-- The place after the character here. -/
def next (c : Cursor) : Cursor :=
  match c.rest with
  | [] => c
  | x :: rest =>
    if isBreak x && !(x = '\r' && rest.head? = some '\n') then ⟨rest, c.index + 1, c.line + 1, 0⟩
    else if x = '\ufeff' then ⟨rest, c.index + 1, c.line, c.column⟩
    else ⟨rest, c.index + 1, c.line, c.column + 1⟩

/-- The place some characters further on. -/
def skip (c : Cursor) : Nat → Cursor
  | 0 => c
  | n + 1 => c.next.skip n

/-- The characters from here on that have a property, and the place after them. -/
def span (c : Cursor) (p : Char → Bool) : List Char × Cursor :=
  let run := c.rest.takeWhile p
  (run, c.skip run.length)

/-- The place after the characters from here on that have a property. -/
def skipAll (c : Cursor) (p : Char → Bool) : Cursor :=
  (c.span p).2

/-- A line end here, as it is read, and the place after it. -/
def lineEnd? (c : Cursor) : Option (Char × Cursor) :=
  match c.rest with
  | '\r' :: '\n' :: _ => some ('\n', c.next.next)
  | x :: _ =>
    if x = '\u2028' || x = '\u2029' then some (x, c.next)
    else if isBreak x then some ('\n', c.next)
    else none
  | [] => none

/-- Whether three equal characters that part documents stand here. -/
def partsDocuments (c : Cursor) (x : Char) : Bool :=
  c.rest.take 3 = [x, x, x] && endsWord (c.ahead 3)

/-- Whether a document starts or ends here. -/
def atDocumentMark (c : Cursor) : Bool :=
  c.partsDocuments '-' || c.partsDocuments '.'

/-- The place after a comment here. -/
def skipComment (c : Cursor) : Cursor :=
  if c.isAt '#' then c.skipAll (!isBreak ·) else c

/-- The place after the gaps, a comment and the end of this line; nothing else may be left on it. -/
def finishLine (c : Cursor) : Except Problem Cursor :=
  let c := (c.skipAll (· = ' ')).skipComment
  if !endsLine c.peek then .error .mark
  else .ok (match c.lineEnd? with
    | some (_, c) => c
    | none => c)

end Cursor

end Inspection.Yaml
