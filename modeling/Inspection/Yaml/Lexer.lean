import Inspection.Yaml.Styles

/-!
# Reading tokens

The tokens of a text. Lines that are indented further open lists and records, lines that are
indented less close them. What stands before a colon is a key only when the colon is met: its mark
is then put in where it started, which has to be on the same line and at most 1024 characters back.

Tokens count only as far as they are settled when a problem is met: the tokens from a possible key
on are not, for a mark may still be put in before them.
-/

namespace Inspection.Yaml

/-- A tag as it is written: a suffix, after a handle that stands for a prefix. -/
structure WrittenTag where
  handle : Option String
  suffix : String
deriving Repr, DecidableEq

/-- A line that tells how a document is to be read. -/
inductive Directive
  | version (major : Nat)
  | tag (handle pre : String)
  | other
deriving Repr, DecidableEq

/-- A mark or a scalar. -/
inductive Token
  | directive (d : Directive)
  | documentStart
  | documentEnd
  | blockListStart
  | blockRecordStart
  | blockEnd
  | flowListStart
  | flowListEnd
  | flowRecordStart
  | flowRecordEnd
  | item
  | comma
  | key
  | value
  | alias (name : String)
  | anchor (name : String)
  | tag (t : WrittenTag)
  | scalar (text : String) (isPlain : Bool)
  /-- The text ends here. -/
  | finish
  /-- Reading ends here with a problem. -/
  | failure (p : Problem)
deriving Repr, DecidableEq

/-- A place where a key may have started. -/
structure PossibleKey where
  position : Nat
  isRequired : Bool
  index : Nat
  line : Nat
  column : Nat

/-- The state of reading: the tokens so far, the indentations of the open lists and records, the
number of open brackets, whether a key may start here, and where keys may have started, by the
number of open brackets there. No indentation at all is −1. -/
structure Lexer where
  cursor : Cursor
  tokens : Array Token := #[]
  indent : Int := -1
  indents : List Int := []
  depth : Nat := 0
  keyAllowed : Bool := true
  keys : List (Nat × PossibleKey) := []

namespace Lexer

/-- Reading one more token. -/
abbrev Step := Lexer → Except Problem Lexer

/-- Whether brackets are open. -/
def inBrackets (l : Lexer) : Bool :=
  l.depth ≠ 0

/-- Adds a token at the end. -/
def add (t : Token) (l : Lexer) : Lexer :=
  { l with tokens := l.tokens.push t }

/-- Puts a token in before others. -/
def insert (t : Token) (position : Nat) (l : Lexer) : Lexer :=
  { l with
    tokens := ((l.tokens.toList.take position ++ [t]) ++ l.tokens.toList.drop position).toArray }

/-- Takes characters as one token. -/
def mark (t : Token) (width : Nat) (l : Lexer) : Lexer :=
  { l.add t with cursor := l.cursor.skip width }

/-- Whether a key can no longer have started at a place. -/
def isPast (l : Lexer) (k : PossibleKey) : Bool :=
  k.line ≠ l.cursor.line || 1024 < l.cursor.index - k.index

/-- Gives up the places where a key can no longer have started; one that is needed may not be. -/
def dropPast : Step := fun l =>
  if l.keys.any fun k => l.isPast k.2 && k.2.isRequired then .error .mark
  else .ok { l with keys := l.keys.filter fun k => !l.isPast k.2 }

/-- Gives up the place where a key may have started at this depth. -/
def dropKey : Step := fun l =>
  if l.keys.any fun k => k.1 = l.depth && k.2.isRequired then .error .mark
  else .ok { l with keys := l.keys.filter fun k => k.1 ≠ l.depth }

/-- Notes that a key may start here. -/
def noteKey : Step := fun l =>
  if l.keyAllowed then do
    let l ← l.dropKey
    let key : PossibleKey := ⟨l.tokens.size, !l.inBrackets && l.indent = l.cursor.column,
      l.cursor.index, l.cursor.line, l.cursor.column⟩
    return { l with keys := (l.depth, key) :: l.keys }
  else .ok l

/-- The number of tokens that are settled. -/
def settled (l : Lexer) : Nat :=
  l.keys.foldl (fun n k => min n k.2.position) l.tokens.size

/-- Closes the lists and records that are indented further than a column. -/
def closeTo (column : Int) (l : Lexer) : Lexer :=
  if l.inBrackets then l
  else
    let closed := (l.indent :: l.indents).takeWhile (column < ·)
    match (l.indent :: l.indents).drop closed.length with
    | i :: rest =>
      { l with tokens := l.tokens ++ (closed.map fun _ => Token.blockEnd).toArray,
               indent := i, indents := rest }
    | [] => l

/-- Opens a list or a record at a column with a mark at a position, if the column is further
right. -/
def openAt (t : Token) (column : Nat) (position : Nat) (l : Lexer) : Lexer :=
  if l.indent < column then
    { l.insert t position with indent := column, indents := l.indent :: l.indents }
  else l

/-- The place after gaps, comments and line ends; after a line end a key may start. -/
def skipGaps : (fuel : Nat) → Lexer → Lexer
  | 0, l => l
  | fuel + 1, l =>
    let c := (l.cursor.skipAll (· = ' ')).skipComment
    match c.lineEnd? with
    | some (_, c) =>
      skipGaps fuel { l with cursor := c, keyAllowed := l.keyAllowed || !l.inBrackets }
    | none => { l with cursor := c }

/-- The place after a mark for the order of bytes at the very start. -/
def skipByteMark (l : Lexer) : Lexer :=
  if l.cursor.index = 0 && l.cursor.isAt '\ufeff' then { l with cursor := l.cursor.next } else l

/-- Whether a character may stand in a name. -/
def isNameChar (c : Char) : Bool :=
  c.isAlphanum || c = '-' || c = '_'

/-- The number of a version before a mark that ends it. -/
def versionNumber (c : Cursor) (ends : Option Char → Bool) : Except Problem (Nat × Cursor) :=
  let (ds, c) := c.span Char.isDigit
  if ds.isEmpty || !ends c.peek then .error .mark else .ok (Decimal.ofDigits ds, c)

/-- A handle of tags: a name between exclamation marks, or a single one. -/
def handle (c : Cursor) : Except Problem (String × Cursor) :=
  if !c.isAt '!' then .error .mark
  else
    let (name, after) := c.next.span isNameChar
    if after.isAt '!' then .ok (String.ofList ('!' :: name ++ ['!']), after.next)
    else if name.isEmpty && c.next.isAt ' ' then .ok ("!", c.next)
    else .error .mark

/-- Whether a character may stand in the name of a tag. -/
def isTagChar (c : Char) : Bool :=
  c.isAlphanum || "-;/?:@&=+$,_.!~*'()[]%".contains c

/-- The name of a tag; characters may be given as bytes after percent signs. -/
def tagName (c : Cursor) : Except Problem (String × Cursor) := do
  let (cs, after) := c.span isTagChar
  if cs.isEmpty then .error .mark
  else return (String.ofList (← decoded cs), after)
where
  /-- The characters with those after percent signs in place. -/
  decoded : List Char → Except Problem (List Char)
    | [] => .ok []
    | '%' :: a :: b :: cs =>
      match Cursor.hexNumber? [a, b] with
      | some n => (Char.ofNat n :: ·) <$> decoded cs
      | none => .error .mark
    | '%' :: _ => .error .mark
    | c :: cs => (c :: ·) <$> decoded cs

/-- A line that tells how a document is to be read. -/
def directive : Step := fun l => do
  let l ← (l.closeTo (-1)).dropKey
  let (name, c) := l.cursor.next.span isNameChar
  if name.isEmpty || !(endsLine c.peek || c.isAt ' ') then .error .mark
  else
    let ends (x : Option Char) : Bool := endsLine x || x = some ' '
    let (d, c) : Directive × Cursor ← (do
      if name = "YAML".toList then
        let (major, c) ← versionNumber (c.skipAll (· = ' ')) (· = some '.')
        let (_, c) ← versionNumber c.next ends
        return (.version major, c)
      else if name = "TAG".toList then
        let (h, c) ← handle (c.skipAll (· = ' '))
        if !c.isAt ' ' then .error .mark
        else
          let (p, c) ← tagName (c.skipAll (· = ' '))
          if !ends c.peek then .error .mark else return (.tag h p, c)
      else return (.other, c.skipAll (!isBreak ·)))
    let c ← c.finishLine
    return { (l.add (.directive d)) with cursor := c, keyAllowed := false }

/-- The start or the end of a document. -/
def documentMark (t : Token) : Step := fun l => do
  let l ← (l.closeTo (-1)).dropKey
  return { l.mark t 3 with keyAllowed := false }

/-- An opening bracket. -/
def openBracket (t : Token) : Step := fun l => do
  let l ← l.noteKey
  return { l.mark t 1 with depth := l.depth + 1, keyAllowed := true }

/-- A closing bracket. -/
def closeBracket (t : Token) : Step := fun l => do
  let l ← l.dropKey
  return { l.mark t 1 with depth := l.depth - 1, keyAllowed := false }

/-- A comma between brackets. -/
def comma : Step := fun l => do
  let l ← l.dropKey
  return { l.mark .comma 1 with keyAllowed := true }

/-- A hyphen before an item of a list. -/
def item : Step := fun l => do
  let l ← (if l.inBrackets then .ok l
    else if !l.keyAllowed then Except.error .mark
    else .ok (l.openAt .blockListStart l.cursor.column l.tokens.size))
  let l ← l.dropKey
  return { l.mark .item 1 with keyAllowed := true }

/-- A question mark before a key. -/
def key : Step := fun l => do
  let l ← (if l.inBrackets then .ok l
    else if !l.keyAllowed then Except.error .mark
    else .ok (l.openAt .blockRecordStart l.cursor.column l.tokens.size))
  let l ← l.dropKey
  return { l.mark .key 1 with keyAllowed := !l.inBrackets }

/-- A colon before a value. What stands before it is a key if one may have started there. -/
def value : Step := fun l => do
  match l.keys.lookup l.depth with
  | some k =>
    let l := { l with keys := l.keys.filter fun k => k.1 ≠ l.depth }
    let l := l.insert .key k.position
    let l := if l.inBrackets then l else l.openAt .blockRecordStart k.column k.position
    return { l.mark .value 1 with keyAllowed := false }
  | none =>
    if !l.inBrackets && !l.keyAllowed then .error .mark
    else
      let l := if l.inBrackets then l
        else l.openAt .blockRecordStart l.cursor.column l.tokens.size
      let l ← { l with keyAllowed := !l.inBrackets }.dropKey
      return l.mark .value 1

/-- A name after its mark. -/
def name (make : String → Token) : Step := fun l => do
  let l ← l.noteKey
  let (cs, c) := l.cursor.next.span isNameChar
  let ends := endsWord c.peek || c.sees fun x => "?:,]\x7d%@\x60".contains x
  if cs.isEmpty || !ends then .error .mark
  else return { l.add (make (String.ofList cs)) with cursor := c, keyAllowed := false }

/-- Whether a handle comes before a name: whether an exclamation mark follows in the same word. -/
def hasHandle (c : Cursor) : Bool :=
  (c.next.span fun x => !(x = ' ' || isBreak x || x = '!')).2.isAt '!'

/-- A tag. -/
def tag : Step := fun l => do
  let l ← l.noteKey
  let c := l.cursor
  let (t, c) : WrittenTag × Cursor ← (do
    if c.ahead 1 = some '<' then
      let (n, c) ← tagName (c.skip 2)
      if c.isAt '>' then return (⟨none, n⟩, c.next) else .error .mark
    else if endsWord (c.ahead 1) then return (⟨none, "!"⟩, c.next)
    else if hasHandle c then
      let (h, c) ← handle c
      let (n, c) ← tagName c
      return (⟨some h, n⟩, c)
    else
      let (n, c) ← tagName c.next
      return (⟨some "!", n⟩, c))
  if endsLine c.peek || c.isAt ' ' then
    return { l.add (.tag t) with cursor := c, keyAllowed := false }
  else .error .mark

/-- A block scalar. -/
def blockScalar (isFolded : Bool) : Step := fun l => do
  let l ← { l with keyAllowed := true }.dropKey
  let (cs, c) ← l.cursor.block isFolded (l.indent + 1).toNat
  return { l.add (.scalar (String.ofList cs) false) with cursor := c }

/-- A quoted scalar. -/
def quotedScalar (double : Bool) : Step := fun l => do
  let l ← l.noteKey
  let (cs, c) ← l.cursor.quoted double
  return { l.add (.scalar (String.ofList cs) false) with cursor := c, keyAllowed := false }

/-- A plain scalar. -/
def plainScalar : Step := fun l => do
  let l ← l.noteKey
  let (cs, atEnd, c) := l.cursor.plain l.inBrackets (l.indent + 1).toNat
  return { l.add (.scalar (String.ofList cs) true) with cursor := c, keyAllowed := atEnd }

/-- Whether a plain scalar starts here. -/
def startsPlain (l : Lexer) : Bool :=
  match l.cursor.peek with
  | none => false
  | some x =>
    !(endsWord (some x) || "-?:,[]\x7b\x7d#&*!|>'\"%@\x60".contains x) ||
      !endsWord (l.cursor.ahead 1) && (x = '-' || !l.inBrackets && (x = '?' || x = ':'))

/-- Reads the token here. -/
def token : Step := fun l =>
  let c := l.cursor
  let wordEnds := endsWord (c.ahead 1)
  match c.peek with
  | none => do
    let l ← (l.closeTo (-1)).dropKey
    return l.add .finish
  | some x =>
    if x = '%' && c.column = 0 then l.directive
    else if c.column = 0 && c.partsDocuments '-' then l.documentMark .documentStart
    else if c.column = 0 && c.partsDocuments '.' then l.documentMark .documentEnd
    else if x = '[' then l.openBracket .flowListStart
    else if x = '\x7b' then l.openBracket .flowRecordStart
    else if x = ']' then l.closeBracket .flowListEnd
    else if x = '\x7d' then l.closeBracket .flowRecordEnd
    else if x = ',' then l.comma
    else if x = '-' && wordEnds then l.item
    else if x = '?' && (l.inBrackets || wordEnds) then l.key
    else if x = ':' && (l.inBrackets || wordEnds) then l.value
    else if x = '*' then l.name .alias
    else if x = '&' then l.name .anchor
    else if x = '!' then l.tag
    else if x = '|' && !l.inBrackets then l.blockScalar false
    else if x = '>' && !l.inBrackets then l.blockScalar true
    else if x = '\'' then l.quotedScalar false
    else if x = '"' then l.quotedScalar true
    else if l.startsPlain then l.plainScalar
    else .error .mark

/-- Reads the next token after gaps. -/
def step : Step := fun l => do
  let l ← (skipGaps (l.cursor.rest.length + 1) l.skipByteMark).dropPast
  (l.closeTo l.cursor.column).token

/-- All tokens from here on. Where a problem is met, only the settled tokens come before it. -/
def run : (fuel : Nat) → (shown : Nat) → Lexer → List Token
  | 0, _, l => l.tokens.toList
  | fuel + 1, shown, l =>
    if l.tokens.back? = some .finish then l.tokens.toList
    else
      match l.dropPast with
      | .error p => l.tokens.toList.take shown ++ [.failure p]
      | .ok l =>
        match l.step with
        | .error p => l.tokens.toList.take l.settled ++ [.failure p]
        | .ok next => run fuel l.settled next

end Lexer

/-- The tokens of a text. -/
def tokensOf (cs : List Char) : List Token :=
  Lexer.run (cs.length + 2) 0 ⟨⟨cs, 0, 0, 0⟩, #[], -1, [], 0, true, []⟩

end Inspection.Yaml
