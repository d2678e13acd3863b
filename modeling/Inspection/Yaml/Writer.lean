import Inspection.Yaml.Scalar
import Inspection.Text.Quoted

/-!
# Writing YAML

Flat mappings from keys to texts and numbers, one member to a line. A text is written plainly if it
is read back as itself, else between single quotes, and between double quotes if it holds what
single quotes cannot show. Long texts are continued at a space on a further line, indented.
-/

namespace Inspection.Yaml

/-- The characters that a plain text must not start with. -/
def indicators : List Char :=
  ['#', ',', '[', ']', '\x7b', '\x7d', '&', '*', '!', '|', '>', '\'', '"', '%', '@', '\x60']

/-- Whether a text would be taken for something else at its start. -/
def startsSpecial : List Char → Bool
  | '-' :: '-' :: '-' :: _ => true
  | '.' :: '.' :: '.' :: _ => true
  | c :: rest =>
    let blankNext := match rest with
      | [] => true
      | d :: _ => d = ' '
    indicators.contains c || ((c = '?' || c = ':' || c = '-') && blankNext)
  | [] => true

/-- Whether a text would end inside: at a colon before a blank or the end, or at a comment. -/
def breaksInside : List Char → Bool
  | [':'] => true
  | ':' :: ' ' :: _ => true
  | ' ' :: '#' :: _ => true
  | _ :: cs => breaksInside cs
  | [] => false

/-- Whether a character is plain ASCII. -/
def isPlain (c : Char) : Bool :=
  32 ≤ c.toNat && c.toNat < 127

/-- Whether a line feed has a space beside it. -/
def hasSpaceAtBreak : List Char → Bool
  | ' ' :: '\n' :: _ => true
  | '\n' :: ' ' :: _ => true
  | _ :: cs => hasSpaceAtBreak cs
  | [] => false

/-- A text is written so that a line has at most this many characters, where it can be. -/
def bestWidth : Nat := 80

/-- How far the further lines of a text are indented. -/
def furtherIndent : List Char := [' ', ' ']

/-- What is written so far of a text, last character first, and the column after it. -/
structure Written where
  backwards : List Char
  column : Nat

namespace Written

/-- Writes characters on the same line. -/
def put (w : Written) (cs : List Char) : Written :=
  ⟨cs.reverse ++ w.backwards, w.column + cs.length⟩

/-- Goes on on a further line. -/
def breakLine (w : Written) : Written :=
  ⟨furtherIndent.reverse ++ '\n' :: w.backwards, furtherIndent.length⟩

/-- Writes a gap of spaces between two words; a single space is left out at the end of a long
line. -/
def putGap (w : Written) (gap : List Char) : Written :=
  if gap.length = 1 ∧ bestWidth < w.column then w.breakLine else w.put gap

/-- Writes line feeds: one for each, and one more where there would be none in the text. -/
def putBreaks (w : Written) (n : Nat) : Written :=
  ⟨furtherIndent.reverse ++ List.replicate (n + 1) '\n' ++ w.backwards, furtherIndent.length⟩

/-- The text that is written. -/
def text (w : Written) : String :=
  String.ofList w.backwards.reverse

end Written

/-- A text in runs: of spaces, of line feeds, and of other characters. -/
def runsOf (cs : List Char) : List (List Char) :=
  let kind (c : Char) : Nat := if c = ' ' then 0 else if c = '\n' then 1 else 2
  cs.splitBy fun a b => kind a = kind b

/-- Writes a text without quotes after a space. -/
def writePlain (cs : List Char) (w : Written) : Written :=
  (runsOf cs).foldl (fun w run => if run.head? = some ' ' then w.putGap run else w.put run)
    (w.put [' '])

/-- Writes the runs of a text between single quotes; no line is broken at the two ends. -/
def writeRuns (isStart : Bool) : List (List Char) → Written → Written
  | [], w => w
  | run :: rest, w =>
    let next := match run.head? with
      | some ' ' => if isStart || rest.isEmpty then w.put run else w.putGap run
      | some '\n' => w.putBreaks run.length
      | _ => w.put (run.flatMap fun c => if c = '\'' then ['\'', '\''] else [c])
    writeRuns false rest next

/-- Writes a text between single quotes after a space. -/
def writeSingle (cs : List Char) (w : Written) : Written :=
  (writeRuns true (runsOf cs) (w.put [' ', '\''])).put ['\'']

/-- A character between double quotes. -/
def escapedChar (c : Char) : List Char :=
  let letters : List (Char × Char) :=
    [('\x00', '0'), ('\x07', 'a'), ('\x08', 'b'), ('\t', 't'), ('\n', 'n'), ('\x0b', 'v'),
      ('\x0c', 'f'), ('\r', 'r'), ('\x1b', 'e'), ('"', '"'), ('\\', '\\'), ('\u0085', 'N'),
      ('\u00a0', '_'), ('\u2028', 'L'), ('\u2029', 'P')]
  match letters.lookup c with
  | some e => ['\\', e]
  | none =>
    let upper (width : Nat) := (Text.hexDigits width c.toNat).map Char.toUpper
    if isPlain c then [c]
    else if c.toNat < 0x100 then '\\' :: 'x' :: upper 2
    else if c.toNat < 0x10000 then '\\' :: 'u' :: upper 4
    else '\\' :: 'U' :: upper 8

/-- Whether a character stands for itself between double quotes. -/
def showsItself (c : Char) : Bool :=
  isPlain c && c ≠ '"' && c ≠ '\\'

/-- Writes the rest of a text between double quotes; `pending` holds the characters of the last word
backwards, which are not written yet. A line is broken, after a backslash, before a space or after
an escape. -/
def writeEscaped (isFirst : Bool) (pending : List Char) : List Char → Written → Written
  | [], w => w.put pending.reverse
  | c :: rest, w =>
    let (pending, w, escaped) :=
      if showsItself c then (pending, w, false)
      else ([], (w.put pending.reverse).put (escapedChar c), true)
    let isInside := !isFirst && !rest.isEmpty
    let width := if escaped then w.column - 1 else w.column + pending.length
    if isInside && (c = ' ' || pending.isEmpty) && bestWidth < width then
      let w := ((w.put pending.reverse).put ['\\']).breakLine
      if escaped then
        writeEscaped false [] rest (if rest.head? = some ' ' then w.put ['\\'] else w)
      else writeEscaped false [c] rest (if c = ' ' then w.put ['\\'] else w)
    else writeEscaped false (if escaped then [] else c :: pending) rest w

/-- Writes a text between double quotes after a space. -/
def writeDouble (cs : List Char) (w : Written) : Written :=
  (writeEscaped true [] cs (w.put [' ', '"'])).put ['"']

/-- Writes a text as a scalar. -/
def writeText (s : String) (w : Written) : Written :=
  let cs := s.toList
  let hasSpaceAtEnd := cs.head? = some ' ' || cs.getLast? = some ' '
  if !(cs.all fun c => isPlain c || c = '\n') || hasSpaceAtBreak cs then writeDouble cs w
  else if kindOf s = .text && !startsSpecial cs && !breaksInside cs && !hasSpaceAtEnd &&
      !cs.contains '\n' then writePlain cs w
  else writeSingle cs w

/-- A number as a scalar: one with an exponent has a point. -/
def numberScalar (x : Float) : String :=
  if x.isNaN then ".nan"
  else if x.isInf then (if x < 0.0 then "-.inf" else ".inf")
  else
    let cs := (NumberFormat.plain.write x).toList
    if cs.contains 'e' && !cs.contains '.' then
      String.ofList (cs.takeWhile (· ≠ 'e') ++ ['.', '0'] ++ cs.dropWhile (· ≠ 'e'))
    else String.ofList cs

/-- Writes a value as a scalar. -/
def writeScalar (j : Json) (w : Written) : Written :=
  match j with
  | .text s => writeText s w
  | .float x => w.put (' ' :: (numberScalar x).toList)
  | .int n => w.put (' ' :: (toString n).toList)
  | .bool b => w.put (if b then " true".toList else " false".toList)
  | _ => w.put " null".toList

/-- A flat mapping as a document. -/
def write (members : List (String × Json)) : String :=
  String.join (members.map fun (k, v) =>
    (writeScalar v (Written.put ⟨[], 0⟩ (k.toList ++ [':']))).text ++ "\n")

end Inspection.Yaml
