import Inspection.Json.Reader
import Inspection.Yaml.Cursor

/-!
# Styles of scalars

Texts between quotes: a line end inside stands for a space, further ones for themselves. Between
single quotes two quotes stand for one; between double quotes a backslash starts an escape.

Texts without quotes: they go on over line ends as long as the lines are indented far enough, and
end before a comment, before a colon that ends a word, and between brackets before the marks there.

Texts of indented lines after `|` or `>`: after `>` a line end between two lines that are not
indented further stands for a space. What follows the last line is kept, cut to one line end, or cut
off.
-/

namespace Inspection.Yaml

/-! ## Quoted scalars -/

/-- A gap between the words of one line. -/
def isGap (c : Char) : Bool :=
  c = ' ' || c = '\t'

/-- What a line end and further ones after it stand for. -/
def foldedBreak (first : Char) (more : List Char) : List Char :=
  if first ≠ '\n' then first :: more else if more.isEmpty then [' '] else more

namespace Cursor

/-- The line ends from here on with the gaps around them; no document may start or end there. -/
def quotedBreaks : (fuel : Nat) → Cursor → Except Problem (List Char × Cursor)
  | 0, c => .ok ([], c)
  | fuel + 1, c =>
    if c.atDocumentMark then .error .mark
    else
      let c := c.skipAll isGap
      match c.lineEnd? with
      | some (b, c) => do
        let (more, c) ← quotedBreaks fuel c
        return (b :: more, c)
      | none => .ok ([], c)

/-- The gaps and line ends between two words of a quoted text. -/
def quotedGap (c : Cursor) : Except Problem (List Char × Cursor) := do
  let (gap, c) := c.span isGap
  match c.lineEnd? with
  | some (b, c) =>
    let (more, c) ← quotedBreaks (c.rest.length + 1) c
    return (foldedBreak b more, c)
  | none => if c.peek.isNone then .error .mark else return (gap, c)

/-- The number of hexadecimal digits after a backslash and a letter. -/
def escapeWidth (c : Char) : Nat :=
  if c = 'x' then 2 else if c = 'u' then 4 else if c = 'U' then 8 else 0

/-- The character that a letter after a backslash stands for. -/
def escapes : List (Char × Char) :=
  [('0', '\x00'), ('a', '\x07'), ('b', '\x08'), ('t', '\t'), ('\t', '\t'), ('n', '\n'),
    ('v', '\x0b'), ('f', '\x0c'), ('r', '\r'), ('e', '\x1b'), (' ', ' '), ('"', '"'),
    ('\\', '\\'), ('/', '/'), ('N', '\u0085'), ('_', '\u00a0'), ('L', '\u2028'), ('P', '\u2029')]

/-- The number that hexadecimal digits write. -/
def hexNumber? (cs : List Char) : Option Nat :=
  cs.foldlM (fun n c => (Json.hexValue? c).map fun d => n * 16 + d) 0

/-- What is written after a backslash here. -/
def escape (c : Cursor) : Except Problem (List Char × Cursor) :=
  match c.peek with
  | none => .error .mark
  | some e =>
    match escapes.lookup e with
    | some x => .ok ([x], c.next)
    | none =>
      let width := escapeWidth e
      if width ≠ 0 then
        match hexNumber? (c.next.rest.take width), decide (width ≤ c.next.rest.length) with
        | some n, true =>
          if n < 0x110000 then .ok ([Json.charOf n], c.next.skip width)
          else .error (.scalar .characterOutOfRange)
        | _, _ => .error .mark
      else
        match c.lineEnd? with
        | some (_, c) => quotedBreaks (c.rest.length + 1) c
        | none => .error .mark

/-- The characters of a quoted text up to a gap, a line end or the closing quote. -/
def quotedRun (double : Bool) : (fuel : Nat) → Cursor → Except Problem (List Char × Cursor)
  | 0, c => .ok ([], c)
  | fuel + 1, c =>
    let take (x : Char) (n : Nat) : Except Problem (List Char × Cursor) := do
      let (more, c) ← quotedRun double fuel (c.skip n)
      return (x :: more, c)
    match c.peek with
    | none => .ok ([], c)
    | some x =>
      if endsWord (some x) then .ok ([], c)
      else if x = '\'' && !double then
        if c.ahead 1 = some '\'' then take '\'' 2 else .ok ([], c)
      else if x = '"' && double then .ok ([], c)
      else if x = '\\' && double then do
        let (e, c) ← c.next.escape
        let (more, c) ← quotedRun double fuel c
        return (e ++ more, c)
      else take x 1

/-- The words of a quoted text with what is between them, up to the closing quote. -/
def quotedWords (double : Bool) : (fuel : Nat) → Cursor → Except Problem (List Char × Cursor)
  | 0, _ => .error .mark
  | fuel + 1, c => do
    let (run, c) ← quotedRun double (c.rest.length + 1) c
    if c.isAt (if double then '"' else '\'') then return (run, c.next)
    else
      let (gap, c) ← c.quotedGap
      let (more, c) ← quotedWords double fuel c
      return (run ++ gap ++ more, c)

/-- The quoted text whose opening quote is here. -/
def quoted (c : Cursor) (double : Bool) : Except Problem (List Char × Cursor) :=
  quotedWords double (c.rest.length + 1) c.next

end Cursor

/-! ## Plain scalars -/

/-- The characters that end a plain text between brackets. -/
def bracketMarks : List Char := [',', '[', ']', '\x7b', '\x7d']

/-- The number of characters of the plain word that a text starts with. -/
def plainLength (inBrackets : Bool) : List Char → Nat
  | [] => 0
  | x :: rest =>
    let endsKey := match rest.head? with
      | some y => endsWord (some y) || inBrackets && bracketMarks.contains y
      | none => true
    if endsWord (some x) || (x = ':' && endsKey) ||
        (inBrackets && (x = '?' || bracketMarks.contains x)) then 0
    else plainLength inBrackets rest + 1

/-- A stretch between words of a plain text: what it stands for, which is nothing where the text
ends, and whether a line ends in it. -/
structure PlainGap where
  text : List Char
  endsLine : Bool

namespace Cursor

/-- The line ends from here on with the spaces around them; none where a document starts or ends. -/
def plainBreaks : (fuel : Nat) → Cursor → Option (List Char) × Cursor
  | 0, c => (some [], c)
  | fuel + 1, c =>
    let c := c.skipAll (· = ' ')
    match c.lineEnd? with
    | none => (some [], c)
    | some (b, c) =>
      if c.atDocumentMark then (none, c)
      else
        let (more, c) := plainBreaks fuel c
        (more.map (b :: ·), c)

/-- The stretch between two words of a plain text. -/
def plainGap (c : Cursor) : PlainGap × Cursor :=
  let (gap, c) := c.span (· = ' ')
  match c.lineEnd? with
  | none => (⟨gap, false⟩, c)
  | some (b, c) =>
    if c.atDocumentMark then (⟨[], true⟩, c)
    else
      match plainBreaks (c.rest.length + 1) c with
      | (some more, c) => (⟨foldedBreak b more, true⟩, c)
      | (none, c) => (⟨[], true⟩, c)

/-- The words of a plain text that goes on while lines are indented by `indent` at least, and
whether its end is the end of a line. -/
def plainWords (inBrackets : Bool) (indent : Nat) :
    (fuel : Nat) → (before : PlainGap) → Cursor → List Char × Bool × Cursor
  | 0, before, c => ([], before.endsLine, c)
  | fuel + 1, before, c =>
    let n := if c.isAt '#' then 0 else plainLength inBrackets c.rest
    if n = 0 then ([], before.endsLine, c)
    else
      let word := c.rest.take n
      let (gap, c) := (c.skip n).plainGap
      if gap.text.isEmpty || c.isAt '#' || (!inBrackets && c.column < indent) then
        (before.text ++ word, gap.endsLine, c)
      else
        let (more, atEnd, c) := plainWords inBrackets indent fuel gap c
        (before.text ++ word ++ more, atEnd, c)

/-- The plain text here. -/
def plain (c : Cursor) (inBrackets : Bool) (indent : Nat) : List Char × Bool × Cursor :=
  plainWords inBrackets indent (c.rest.length + 1) ⟨[], false⟩ c

end Cursor

/-! ## Block scalars -/

/-- What becomes of the line ends after the last line. -/
inductive Chomping
  | clip
  | keep
  | strip
deriving Repr, DecidableEq

/-- What a block scalar is announced with. -/
structure BlockHeader where
  chomping : Chomping
  indentation : Option Nat

namespace Cursor

/-- How the line ends at the end are treated. -/
def chomping? (c : Cursor) : Option (Chomping × Cursor) :=
  if c.isAt '+' then some (.keep, c.next)
  else if c.isAt '-' then some (.strip, c.next)
  else none

/-- A number of spaces, which is a digit but not zero. -/
def indentation? (c : Cursor) : Except Problem (Option (Nat × Cursor)) :=
  match c.peek with
  | some d =>
    if d = '0' then .error .mark
    else if d.isDigit then .ok (some (d.toNat - '0'.toNat, c.next))
    else .ok none
  | none => .ok none

/-- The header after the mark of a block scalar, up to the end of its line. -/
def blockHeader (c : Cursor) : Except Problem (BlockHeader × Cursor) := do
  let (header, c) : BlockHeader × Cursor ← (do
    match c.chomping? with
    | some (chomping, c) =>
      match ← c.indentation? with
      | some (n, c) => return (⟨chomping, some n⟩, c)
      | none => return (⟨chomping, none⟩, c)
    | none =>
      match ← c.indentation? with
      | some (n, c) =>
        match c.chomping? with
        | some (chomping, c) => return (⟨chomping, some n⟩, c)
        | none => return (⟨.clip, some n⟩, c)
      | none => return (⟨.clip, none⟩, c))
  if endsLine c.peek || c.isAt ' ' then return (header, ← c.finishLine) else .error .mark

/-- The empty lines from here on, and the greatest indentation among them and the line after. -/
def emptyLines : (fuel : Nat) → (most : Nat) → Cursor → List Char × Nat × Cursor
  | 0, most, c => ([], most, c)
  | fuel + 1, most, c =>
    match c.lineEnd? with
    | some (b, c) =>
      let (more, most, c) := emptyLines fuel most c
      (b :: more, most, c)
    | none =>
      if c.isAt ' ' then emptyLines fuel (max most c.next.column) c.next else ([], most, c)

/-- The place after spaces, up to an indentation. -/
def indentTo (c : Cursor) (indent : Nat) : Cursor :=
  c.skip (c.rest.takeWhile (· = ' ') |>.take (indent - c.column)).length

/-- The line ends from here on with the spaces around them, up to an indentation. -/
def blockBreaks (indent : Nat) : (fuel : Nat) → Cursor → List Char × Cursor
  | 0, c => ([], c)
  | fuel + 1, c =>
    let c := c.indentTo indent
    match c.lineEnd? with
    | some (b, c) =>
      let (more, c) := blockBreaks indent fuel c
      (b :: more, c)
    | none => ([], c)

/-- Whether a line of a block scalar starts here. -/
def startsBlockLine (c : Cursor) (indent : Nat) : Bool :=
  c.column = indent && c.peek.isSome

/-- The lines from here on after some line ends: their text, the end of the last line, and the line
ends after it. -/
def blockLines (isFolded : Bool) (indent : Nat) :
    (fuel : Nat) → (breaks : List Char) → Cursor → List Char × List Char × List Char × Cursor
  | 0, breaks, c => ([], [], breaks, c)
  | fuel + 1, breaks, c =>
    if !c.startsBlockLine indent then ([], [], breaks, c)
    else
      let isIndented := c.sees isGap
      let (line, c) := c.span (!isBreak ·)
      let (ending, c) := match c.lineEnd? with
        | some (b, c) => ([b], c)
        | none => ([], c)
      let (more, c) := blockBreaks indent (c.rest.length + 1) c
      if c.startsBlockLine indent then
        let folds := isFolded && ending = ['\n'] && !isIndented && !c.sees isGap
        let between := if folds then (if more.isEmpty then [' '] else []) else ending
        let (text, ending, more, c) := blockLines isFolded indent fuel more c
        (breaks ++ line ++ between ++ text, ending, more, c)
      else (breaks ++ line, ending, more, c)

/-- The block scalar whose mark is here; `least` is the least indentation of its lines. -/
def block (c : Cursor) (isFolded : Bool) (least : Nat) : Except Problem (List Char × Cursor) := do
  let (header, c) ← c.next.blockHeader
  let least := max least 1
  let (breaks, indent, c) := match header.indentation with
    | some n =>
      let indent := least + n - 1
      let (breaks, c) := blockBreaks indent (c.rest.length + 1) c
      (breaks, indent, c)
    | none =>
      let (breaks, most, c) := emptyLines (c.rest.length + 1) 0 c
      (breaks, max least most, c)
  let (text, ending, more, c) := blockLines isFolded indent (c.rest.length + 1) breaks c
  return (text ++ (if header.chomping = .strip then [] else ending) ++
    (if header.chomping = .keep then more else []), c)

end Cursor

end Inspection.Yaml
